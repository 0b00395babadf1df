import FilterScript.Proofs.Script.Changes

/-!
# Directives are read back

The first lines of a whole script are its directives, one for each reference. No path that is
referenced has a quotation mark or a line feed in it, so each directive is found again in its line,
and what is behind the last of them is the code.

* **One line** (`readDirective_directive`): a directive says which file it takes in and of what
  kind the file is.
* **The whole script** (`readFullCode_fullCode`): the references are found again in their order, and
  the code behind them.
-/

namespace FilterScript.Script

/-! ## Reading -/

/-- The kind of the files that a command takes in. -/
def kindOf? (command : List Char) : Option ReferenceKind :=
  if command = "Import".toList then some .script
  else if command = "LoadPlugin".toList then some .plugin
  else none

/-- The file that a line takes in, if it is a command with one path in quotation marks, and nothing
else. -/
def readDirective (line : List Char) : Option (String × ReferenceKind) :=
  match line.dropWhile (· ≠ '(') with
  | '(' :: '"' :: rest =>
    if rest.dropWhile (· ≠ '"') = ['"', ')'] then
      (kindOf? (line.takeWhile (· ≠ '('))).map (String.ofList (rest.takeWhile (· ≠ '"')), ·)
    else none
  | _ => none

/-- The files that the first lines of a text take in, as many lines as are to be read, and the text
behind them. -/
def readDirectives : Nat → List Char → Option (References × List Char)
  | 0, text => some ([], text)
  | count + 1, text =>
    match text.dropWhile (· ≠ '\n'), readDirective (text.takeWhile (· ≠ '\n')) with
    | _ :: behind, some entry =>
      (readDirectives count behind).map fun (refs, body) => (entry :: refs, body)
    | _, _ => none

/-- The references and the code of a whole script whose number of references is known. -/
def readFullCode (count : Nat) (text : String) : Option (References × String) :=
  (readDirectives count text.toList).map fun (refs, body) => (refs, String.ofList body)

/-! ## Finding separators -/

section Separators

variable {c : Char} {front : List Char}

/-- Text up to the first occurrence of a character. -/
theorem takeWhile_append_of_not_mem (h : c ∉ front) (back : List Char) :
    (front ++ c :: back).takeWhile (· ≠ c) = front := by
  have differ : ∀ d ∈ front, decide (d ≠ c) = true := by
    intro d inside
    exact decide_eq_true fun same => h (same ▸ inside)
  rw [List.takeWhile_append_of_pos differ, List.takeWhile_cons_of_neg (by simp), List.append_nil]

/-- Text from the first occurrence of a character on. -/
theorem dropWhile_append_of_not_mem (h : c ∉ front) (back : List Char) :
    (front ++ c :: back).dropWhile (· ≠ c) = c :: back := by
  have differ : ∀ d ∈ front, decide (d ≠ c) = true := by
    intro d inside
    exact decide_eq_true fun same => h (same ▸ inside)
  rw [List.dropWhile_append_of_pos differ, List.dropWhile_cons_of_neg (by simp)]

end Separators

/-! ## One line -/

section Line

variable {entry : String × ReferenceKind}

/-- The directive of a reference, without the line feed that ends its line. -/
def directive (entry : String × ReferenceKind) : List Char :=
  entry.2.directive.toList ++ '(' :: '"' :: (entry.1.toList ++ ['"', ')'])

/-- A directive's line is the directive and a line feed. -/
theorem toList_directiveLine (entry : String × ReferenceKind) :
    (directiveLine entry).toList = directive entry ++ ['\n'] := by
  simp [directiveLine, directive]

/-- The word of a directive tells its kind. -/
theorem kindOf?_directive (kind : ReferenceKind) :
    kindOf? kind.directive.toList = some kind := by
  cases kind <;> decide

/-- A command is a word: it does not go on to the path and not to the next line. -/
theorem not_mem_directive (kind : ReferenceKind) :
    '(' ∉ kind.directive.toList ∧ '\n' ∉ kind.directive.toList := by
  cases kind <;> decide

/-- **One line**: a directive says which file it takes in and of what kind the file is. -/
theorem readDirective_directive (unquoted : '"' ∉ entry.1.toList) :
    readDirective (directive entry) = some entry := by
  obtain ⟨word, -⟩ := not_mem_directive entry.2
  have command : (directive entry).takeWhile (· ≠ '(') = entry.2.directive.toList :=
    takeWhile_append_of_not_mem word _
  have behind : (directive entry).dropWhile (· ≠ '(') = '(' :: '"' :: (entry.1.toList ++ ['"', ')']) :=
    dropWhile_append_of_not_mem word _
  have path : (entry.1.toList ++ ['"', ')']).takeWhile (· ≠ '"') = entry.1.toList :=
    takeWhile_append_of_not_mem unquoted [')']
  have close : (entry.1.toList ++ ['"', ')']).dropWhile (· ≠ '"') = ['"', ')'] :=
    dropWhile_append_of_not_mem unquoted [')']
  simp only [readDirective, behind, close, command, kindOf?_directive, path, if_true,
    String.ofList_toList]
  rfl

/-- The directive of a path on one line is on one line. -/
theorem lineFeed_not_mem_directive (oneLine : '\n' ∉ entry.1.toList) : '\n' ∉ directive entry := by
  obtain ⟨-, word⟩ := not_mem_directive entry.2
  simp [directive, word, oneLine]

end Line

/-! ## The whole script -/

/-- Directives are found again in their order, and what is behind them. -/
theorem readDirectives_append {refs : References}
    (clean : ∀ entry ∈ refs, '"' ∉ entry.1.toList ∧ '\n' ∉ entry.1.toList) (body : List Char) :
    readDirectives refs.length ((String.join (refs.map directiveLine)).toList ++ body) =
      some (refs, body) := by
  induction refs with
  | nil => rfl
  | cons entry rest ih =>
    obtain ⟨⟨unquoted, oneLine⟩, others⟩ := List.forall_mem_cons.1 clean
    have lines : (String.join ((entry :: rest).map directiveLine)).toList ++ body =
        directive entry ++ '\n' :: ((String.join (rest.map directiveLine)).toList ++ body) := by
      rw [List.map_cons, String.join_cons, String.toList_append, toList_directiveLine]
      simp
    have uncut := lineFeed_not_mem_directive oneLine
    rw [lines, List.length_cons, readDirectives, takeWhile_append_of_not_mem uncut,
      dropWhile_append_of_not_mem uncut, readDirective_directive unquoted]
    dsimp only
    rw [ih others]
    rfl

/-- **The whole script**: the references are found again in their order, and the code behind them.
-/
theorem readFullCode_fullCode {s : Script} {shared : References}
    (clean : ∀ entry ∈ s.allReferences shared, '"' ∉ entry.1.toList ∧ '\n' ∉ entry.1.toList) :
    readFullCode (s.allReferences shared).length (s.fullCode shared) =
      some (s.allReferences shared, s.body) := by
  rw [readFullCode, fullCode, String.toList_append, readDirectives_append clean]
  simp

end FilterScript.Script
