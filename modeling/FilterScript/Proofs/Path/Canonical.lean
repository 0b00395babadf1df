import FilterScript.Proofs.Text.OneLine

/-!
# Paths in normal form

A path is walked piece by piece between its slashes. Where every piece is a name, or nothing, the
walk passes through the names as they stand; so the names of a normal form are those of the path that
it was made from, and making it again changes nothing.

* **Names** (`segmentsOf_join`, `segmentsOf_normalize`): a path of names behind a directory leads on
  through these names.
* **Normal form** (`normalize_normalize`, `isResolved_resolve`): a resolved path stands for itself
  in every directory.
* **Entries** (`isResolved_joined`): so does the name of an entry behind the path of its directory.
-/

namespace FilterScript.Path

/-! ## Walking -/

section Walk

variable {pieces names done : List (List Char)} {cs : List Char}

/-- A proper name is pushed as it is. -/
theorem push_of_isName {piece : List Char} (name : IsName piece) (done : List (List Char)) :
    push done piece = piece :: done := by
  obtain ⟨some, notDot, notDots⟩ := name
  simp [push, some, notDot, notDots]

/-- Names are passed through as they stand, and nothing between two slashes is passed over. -/
theorem foldl_push_of_plain (plain : ∀ piece ∈ pieces, piece = [] ∨ IsName piece)
    (done : List (List Char)) :
    pieces.foldl push done = (pieces.filter (· ≠ [])).reverse ++ done := by
  induction pieces generalizing done with
  | nil => rfl
  | cons piece rest ih =>
    obtain ⟨first, others⟩ := List.forall_mem_cons.1 plain
    rw [List.foldl_cons, ih others]
    rcases first with rfl | name
    · simp [push]
    · rw [push_of_isName name]
      simp [name.1]

/-- Whether a path leads down by names alone: between its slashes are names, or nothing. -/
def IsPlain (cs : List Char) : Prop :=
  ∀ piece ∈ cs.splitOn '/', piece = [] ∨ IsName piece

/-- The empty path is plain. -/
theorem isPlain_nil : IsPlain [] := by
  simp [IsPlain]

/-- A path of two parts is plain when both parts are. -/
theorem isPlain_append_slash {front back : List Char} :
    IsPlain (front ++ '/' :: back) ↔ IsPlain front ∧ IsPlain back := by
  rw [IsPlain, List.splitOn_append_cons_self, List.forall_mem_append]
  rfl

/-- The segments of a path of two parts: those of the front, which the pieces of the back then
change. -/
theorem segmentsOf_append_slash (front back : List Char) :
    segmentsOf (front ++ '/' :: back) =
      ((back.splitOn '/').foldl push (segmentsOf front).reverse).reverse := by
  simp [segmentsOf, List.splitOn_append_cons_self]

/-- Behind a slash, names are led through after those in front of it. -/
theorem segmentsOf_append_of_isPlain {back : List Char} (plain : IsPlain back)
    (front : List Char) :
    segmentsOf (front ++ '/' :: back) =
      segmentsOf front ++ (back.splitOn '/').filter (· ≠ []) := by
  rw [segmentsOf_append_slash, foldl_push_of_plain plain]
  simp

/-- Of a plain path every piece is a segment, the empty ones apart. -/
theorem segmentsOf_of_isPlain (plain : IsPlain cs) :
    segmentsOf cs = (cs.splitOn '/').filter (· ≠ []) := by
  rw [segmentsOf, foldl_push_of_plain plain]
  simp

/-- The empty path has no segments. -/
theorem segmentsOf_nil : segmentsOf [] = [] := by
  rw [segmentsOf, List.splitOn_nil]
  rfl

/-- **Names**: a path of names behind a directory leads on through these names. -/
theorem segmentsOf_join {path : List Char} (plain : ∀ piece ∈ path.splitOn '/', IsName piece)
    (directory : List Char) :
    segmentsOf (join directory path) = segmentsOf directory ++ path.splitOn '/' := by
  have weak : IsPlain path := fun piece inside => .inr (plain piece inside)
  have kept : (path.splitOn '/').filter (· ≠ []) = path.splitOn '/' :=
    List.filter_eq_self.2 fun piece inside => by simpa using (plain piece inside).1
  have behindSlash : ∀ front, segmentsOf (front ++ '/' :: path) =
      segmentsOf front ++ path.splitOn '/' := by
    intro front
    rw [segmentsOf_append_of_isPlain weak, kept]
  unfold join
  split
  · next rest =>
    -- a slash in front would have nothing before it, and that is no name
    have empty : [] ∈ ('/' :: rest).splitOn '/' := by
      rw [List.splitOn_cons_eq_if_modifyHead]
      exact List.mem_cons_self
    exact absurd rfl (plain [] empty).1
  · split
    · next h =>
      rcases h with rfl | ended
      · rw [List.nil_append, segmentsOf_nil, List.nil_append, segmentsOf_of_isPlain weak, kept]
      · obtain ⟨front, rfl⟩ := List.getLast?_eq_some_iff.1 ended
        have same : segmentsOf (front ++ ['/']) = segmentsOf front := by
          rw [segmentsOf_append_slash, List.splitOn_nil]
          simp [push]
        rw [List.append_assoc, List.singleton_append, behindSlash, same]
    · exact behindSlash directory

/-- A path behind a directory leads down if both do. -/
theorem IsPlain.join {directory path : List Char} (down : IsPlain directory)
    (further : IsPlain path) : IsPlain (join directory path) := by
  unfold Path.join
  split
  · exact further
  · split
    · next h =>
      rcases h with rfl | ended
      · exact further
      · obtain ⟨front, rfl⟩ := List.getLast?_eq_some_iff.1 ended
        rw [List.append_assoc]
        exact isPlain_append_slash.2 ⟨(isPlain_append_slash.1 down).1, further⟩
    · exact isPlain_append_slash.2 ⟨down, further⟩

end Walk

/-! ## Normal forms -/

section Normal

variable {cs : List Char}

/-- A normal form leads through names without slashes. -/
theorem slash_not_mem_of_mem_segmentsOf {name : List Char} (h : name ∈ segmentsOf cs) :
    '/' ∉ name :=
  Text.not_mem_of_mem_splitOn (mem_splitOn_of_mem_segmentsOf h)

/-- Names with slashes between them are found again. -/
theorem filter_splitOn_intercalate {names : List (List Char)}
    (entries : ∀ name ∈ names, name ≠ [] ∧ '/' ∉ name) :
    ((['/'].intercalate names).splitOn '/').filter (· ≠ []) = names := by
  cases names with
  | nil => simp
  | cons first rest =>
    have uncut : ∀ name ∈ first :: rest, '/' ∉ name := fun name inside => (entries name inside).2
    rw [List.splitOn_intercalate '/' uncut (List.cons_ne_nil first rest)]
    exact List.filter_eq_self.2 fun name inside => by simpa using (entries name inside).1

/-- Names set between slashes make a plain path. -/
theorem isPlain_intercalate {names : List (List Char)}
    (entries : ∀ name ∈ names, IsName name ∧ '/' ∉ name) : IsPlain (['/'].intercalate names) := by
  cases names with
  | nil => exact isPlain_nil
  | cons first rest =>
    have uncut : ∀ name ∈ first :: rest, '/' ∉ name := fun name inside => (entries name inside).2
    rw [IsPlain, List.splitOn_intercalate '/' uncut (List.cons_ne_nil first rest)]
    exact fun name inside => .inr (entries name inside).1

/-- A path starts with one slash or with two. -/
theorem leadingSlashes_cases (cs : List Char) :
    leadingSlashes cs = ['/'] ∨ leadingSlashes cs = ['/', '/'] := by
  unfold leadingSlashes
  split
  · exact .inl rfl
  · exact .inr rfl
  · exact .inl rfl

/-- Every segment is a proper name without a slash. -/
theorem isEntry_of_mem_segmentsOf (cs : List Char) :
    ∀ name ∈ segmentsOf cs, IsName name ∧ '/' ∉ name :=
  fun _ leads => ⟨isName_of_mem_segmentsOf leads, slash_not_mem_of_mem_segmentsOf leads⟩

/-- **Names**: a normal form leads through the names that the path leads through. -/
theorem segmentsOf_normalize (cs : List Char) : segmentsOf (normalize cs) = segmentsOf cs := by
  have plain := isPlain_intercalate (isEntry_of_mem_segmentsOf cs)
  have found : ((['/'].intercalate (segmentsOf cs)).splitOn '/').filter (· ≠ []) = segmentsOf cs :=
    filter_splitOn_intercalate fun name leads =>
      ⟨(isName_of_mem_segmentsOf leads).1, slash_not_mem_of_mem_segmentsOf leads⟩
  have behind : ∀ front, segmentsOf front = [] →
      segmentsOf (front ++ '/' :: ['/'].intercalate (segmentsOf cs)) = segmentsOf cs := by
    intro front empty
    rw [segmentsOf_append_of_isPlain plain, found, empty, List.nil_append]
  unfold normalize
  rcases leadingSlashes_cases cs with one | two
  · rw [one]
    exact behind [] segmentsOf_nil
  · rw [two]
    exact behind ['/'] (by decide)

/-- A normal form leads down by names alone. -/
theorem isPlain_normalize (cs : List Char) : IsPlain (normalize cs) := by
  have names := isPlain_intercalate (isEntry_of_mem_segmentsOf cs)
  unfold normalize
  rcases leadingSlashes_cases cs with one | two
  · rw [one]
    exact isPlain_append_slash.2 ⟨isPlain_nil, names⟩
  · rw [two]
    exact isPlain_append_slash.2 ⟨isPlain_append_slash.2 ⟨isPlain_nil, isPlain_nil⟩, names⟩

/-- The names of a path do not begin with a slash. -/
theorem head?_intercalate_segmentsOf_ne (cs : List Char) :
    (['/'].intercalate (segmentsOf cs)).head? ≠ some '/' := by
  cases walked : segmentsOf cs with
  | nil => simp
  | cons first rest =>
    have leads : first ∈ segmentsOf cs := walked ▸ List.mem_cons_self
    obtain ⟨c, name, rfl⟩ := List.exists_cons_of_ne_nil (isName_of_mem_segmentsOf leads).1
    rw [List.intercalate_cons_cons_left, List.head?_cons]
    intro slash
    exact slash_not_mem_of_mem_segmentsOf leads (Option.some.inj slash ▸ List.mem_cons_self)

/-- The slashes put in front of a path are counted again as they were. -/
theorem leadingSlashes_append (cs : List Char) {rest : List Char} (first : rest.head? ≠ some '/') :
    leadingSlashes (leadingSlashes cs ++ rest) = leadingSlashes cs := by
  cases rest with
  | nil => rcases leadingSlashes_cases cs with h | h <;> rw [h] <;> rfl
  | cons c rest =>
    have other : c ≠ '/' := fun slash => first (congrArg some slash)
    rcases leadingSlashes_cases cs with h | h <;> rw [h] <;> simp [leadingSlashes, other]

/-- Normalization keeps the leading slashes. -/
theorem leadingSlashes_normalize (cs : List Char) :
    leadingSlashes (normalize cs) = leadingSlashes cs :=
  leadingSlashes_append cs (head?_intercalate_segmentsOf_ne cs)

/-- **Normal form**: making it again changes nothing. -/
theorem normalize_normalize (cs : List Char) : normalize (normalize cs) = normalize cs := by
  rw [normalize, segmentsOf_normalize, leadingSlashes_normalize]
  rfl

/-- A normalized path starts with a slash. -/
theorem exists_normalize_eq_cons (cs : List Char) : ∃ rest, normalize cs = '/' :: rest := by
  unfold normalize
  rcases leadingSlashes_cases cs with h | h <;> rw [h] <;> exact ⟨_, rfl⟩

/-- One more name behind others is set off by one more slash. -/
theorem intercalate_concat {names : List (List Char)} (some : names ≠ []) (name : List Char) :
    ['/'].intercalate (names ++ [name]) = ['/'].intercalate names ++ '/' :: name := by
  induction names with
  | nil => exact absurd rfl some
  | cons first rest ih =>
    cases rest with
    | nil => simp
    | cons second rest =>
      have behind := ih (List.cons_ne_nil second rest)
      rw [List.cons_append] at behind
      rw [List.cons_append, List.cons_append, List.intercalate_cons_cons, behind, List.intercalate_cons_cons,
        ← List.append_assoc]

/-- Names with slashes between them do not end in a slash. -/
theorem exists_getLast?_intercalate {names : List (List Char)} (some : names ≠ [])
    (entries : ∀ name ∈ names, IsName name ∧ '/' ∉ name) :
    ∃ c, c ≠ '/' ∧ (['/'].intercalate names).getLast? = .some c := by
  obtain ⟨front, last, rfl⟩ := (List.eq_nil_or_concat names).resolve_left some
  obtain ⟨name, uncut⟩ := entries last (by simp)
  obtain ⟨c, closing⟩ := Option.ne_none_iff_exists'.1 (mt List.getLast?_eq_none_iff.1 name.1)
  refine ⟨c, fun slash => uncut (slash ▸ List.mem_of_getLast? closing), ?_⟩
  rw [List.concat_eq_append]
  by_cases alone : front = []
  · rw [alone, List.nil_append, List.intercalate_singleton, closing]
  · rw [intercalate_concat alone, List.getLast?_append, List.getLast?_cons_of_ne_nil name.1, closing]
    rfl

/-- The name of an entry goes behind all names of a normal form. -/
theorem join_normalize (cs : List Char) {name : List Char} (uncut : '/' ∉ name) :
    join (normalize cs) name = leadingSlashes cs ++ ['/'].intercalate (segmentsOf cs ++ [name]) := by
  unfold join
  split
  · exact absurd List.mem_cons_self uncut
  · by_cases none : segmentsOf cs = []
    · have ended : (leadingSlashes cs).getLast? = some '/' := by
        rcases leadingSlashes_cases cs with h | h <;> rw [h] <;> rfl
      rw [normalize, none, List.intercalate_nil, List.append_nil, if_pos (.inr ended)]
      simp
    · obtain ⟨c, other, closing⟩ := exists_getLast?_intercalate none (isEntry_of_mem_segmentsOf cs)
      have last : (normalize cs).getLast? = some c := by
        rw [normalize, List.getLast?_append, closing]
        rfl
      have within : ¬(normalize cs = [] ∨ (normalize cs).getLast? = some '/') := by
        rintro (empty | slash)
        · rw [empty] at last
          cases last
        · exact other (Option.some.inj (last.symm.trans slash))
      rw [if_neg within, intercalate_concat none, normalize, List.append_assoc]

/-- **Entries**: a name behind a normal form makes a normal form. -/
theorem normalize_join_normalize (cs : List Char) {name : List Char} (proper : IsName name)
    (uncut : '/' ∉ name) : normalize (join (normalize cs) name) = join (normalize cs) name := by
  have single := List.splitOn_eq_singleton uncut
  have leads : segmentsOf (join (normalize cs) name) = segmentsOf cs ++ [name] := by
    rw [segmentsOf_join, single, segmentsOf_normalize]
    rw [single]
    simpa using proper
  have whole := join_normalize cs uncut
  rw [← leads] at whole
  have slashes : leadingSlashes (join (normalize cs) name) = leadingSlashes cs := by
    rw [whole]
    exact leadingSlashes_append cs (head?_intercalate_segmentsOf_ne _)
  rw [normalize, slashes, ← whole]

end Normal

/-! ## Resolved paths -/

/-- Whether a path stands for itself in every directory. -/
def IsResolved (path : String) : Prop :=
  ∀ directory, resolve directory path = path

section Resolved

variable {directory path : String}

/-- **Normal form**: a resolved path stands for itself in every directory. -/
theorem isResolved_resolve (directory path : String) : IsResolved (resolve directory path) := by
  intro other
  obtain ⟨rest, absolute⟩ := exists_normalize_eq_cons (join directory.toList path.toList)
  have again := normalize_normalize (join directory.toList path.toList)
  rw [resolve, resolve, String.toList_ofList]
  rw [absolute] at again ⊢
  exact congrArg String.ofList again

/-- **Entries**: the name of an entry behind a resolved directory is a resolved path. -/
theorem isResolved_joined {name : String} (proper : IsName name.toList) (uncut : '/' ∉ name.toList) :
    IsResolved (joined (resolve directory path) name) := by
  intro other
  have again := normalize_join_normalize (join directory.toList path.toList) proper uncut
  rw [resolve, joined, resolve, String.toList_ofList, String.toList_ofList]
  obtain ⟨rest, absolute⟩ := exists_normalize_eq_cons
    (join (normalize (join directory.toList path.toList)) name.toList)
  rw [again] at absolute
  rw [absolute] at again ⊢
  exact congrArg String.ofList again

/-- A resolved path begins with a slash. -/
theorem IsResolved.head? (h : IsResolved path) : path.toList.head? = some '/' := by
  obtain ⟨rest, absolute⟩ := exists_normalize_eq_cons (join [] path.toList)
  have same : String.ofList ('/' :: rest) = path := by
    rw [← absolute]
    exact h ""
  rw [← same, String.toList_ofList, List.head?_cons]

/-- A resolved path is plain. -/
theorem IsResolved.isPlain (h : IsResolved path) : IsPlain path.toList := by
  have same : String.ofList (normalize (join [] path.toList)) = path := h ""
  rw [← same, String.toList_ofList]
  exact isPlain_normalize _

/-- The names of a resolved path are those of the path that was resolved. -/
theorem names_resolve (directory path : String) :
    names (resolve directory path) = names (joined directory path) := by
  rw [names, names, resolve, joined, String.toList_ofList, String.toList_ofList,
    segmentsOf_normalize]

/-- The names on a plain path are its pieces, the empty ones apart. -/
theorem names_of_isPlain (plain : IsPlain path.toList) :
    names path = ((path.toList.splitOn '/').filter (· ≠ [])).map String.ofList := by
  rw [names, segmentsOf_of_isPlain plain]

/-- A path of names behind a directory leads on through these names. -/
theorem names_joined (plain : ∀ piece ∈ path.toList.splitOn '/', IsName piece)
    (directory : String) :
    names (joined directory path) =
      names directory ++ (path.toList.splitOn '/').map String.ofList := by
  rw [names, names, joined, String.toList_ofList, segmentsOf_join plain, List.map_append]

end Resolved

/-! ## Characters -/

/-- A path that may stand in a script has neither a quotation mark nor a line feed. -/
theorem not_mem_of_isValid {path : String} (valid : isValid path = true) :
    '"' ∉ path.toList ∧ '\n' ∉ path.toList := by
  rw [isValid, Bool.and_eq_true, List.all_eq_true] at valid
  obtain ⟨-, supported⟩ := valid
  exact ⟨fun quote => absurd (supported _ quote) (by decide),
    fun lineFeed => absurd (supported _ lineFeed) (by decide)⟩

end FilterScript.Path
