import FilterScript.Proofs.References.Growth
import FilterScript.Script

/-!
# What a script goes through

A script changes in two ways: lines are put behind its code, and files are referenced. A call does
both or nothing, since what it requires is gathered aside first.

* **Code** (`foldl_appendLines`): the first code is ended once something is put behind it, and what
  is put behind it is ended right away.
* **Required files** (`requireAll_append`, `holdsFile_of_requireAll_eq_ok`): the first file that
  cannot be referenced ends it; if there is none, all of them are referenced.
* **Calls** (`invoke_eq_error`, `invoke_eq_ok`): a failing call leaves the script as it was, at
  whatever point it fails.
* **The whole script** (`exists_fullCode_eq`): the directive of each reference precedes the code.
-/

namespace FilterScript

namespace Script

/-! ## Code -/

/-- Code that has lines behind it: ended, unless there is no code or no line. -/
def ended (code : String) (texts : List String) : String :=
  if texts ≠ [] ∧ code ≠ "" ∧ code.toList.getLast? ≠ some '\n' then code ++ "\n" else code

/-- Lines behind each other, each of them ended. -/
def lines (texts : List String) : String :=
  String.join (texts.map (· ++ "\n"))

/-- No lines. -/
theorem lines_nil : lines [] = "" :=
  rfl

/-- One more line in front. -/
theorem lines_cons (text : String) (texts : List String) :
    lines (text :: texts) = text ++ "\n" ++ lines texts := by
  rw [lines, List.map_cons, String.join_cons]
  rfl

/-- Code that lines were appended to ends in a line feed. -/
theorem getLast?_appendLines (code text : String) :
    (appendLines code text).toList.getLast? = some '\n' := by
  rw [appendLines, String.toList_append]
  exact List.getLast?_concat

/-- The first append ends an open line before it. -/
theorem appendLines_eq (code text : String) (texts : List String) :
    appendLines code text = ended code (text :: texts) ++ text ++ "\n" := by
  simp [appendLines, ended]

/-- Appending to code that ends in a line feed. -/
theorem foldl_appendLines_of_ended {code : String} (h : code.toList.getLast? = some '\n')
    (texts : List String) : texts.foldl appendLines code = code ++ lines texts := by
  induction texts generalizing code with
  | nil => rw [lines_nil, String.append_empty, List.foldl_nil]
  | cons text texts ih =>
    rw [List.foldl_cons, ih (getLast?_appendLines code text), appendLines_of_ended h, lines_cons]
    simp only [String.append_assoc]

/-- **Code**: lines are put behind each other, and behind the code that was there before. -/
theorem foldl_appendLines (code : String) (texts : List String) :
    texts.foldl appendLines code = ended code texts ++ lines texts := by
  cases texts with
  | nil =>
    have same : ended code [] = code := if_neg fun some => some.1 rfl
    rw [same, lines_nil, String.append_empty, List.foldl_nil]
  | cons text texts =>
    rw [List.foldl_cons, foldl_appendLines_of_ended (getLast?_appendLines code text),
      appendLines_eq code text texts, lines_cons]
    simp only [String.append_assoc]

/-! ## Required files -/

section Require

variable {host : Host}

/-- A required file that loads. -/
theorem requireAll_cons_of_load_eq_ok {file : Value} {path : String} {refs done : References}
    {kind : Option ReferenceKind} (named : file.toText? = some path)
    (loaded : References.load host path false refs = .ok (done, kind)) (rest : List Value) :
    requireAll host (file :: rest) refs = requireAll host rest done := by
  simp only [requireAll_cons, named, loaded]

/-- A required file that does not. -/
theorem requireAll_cons_of_load_eq_error {file : Value} {path : String} {refs : References}
    {e : Error} (named : file.toText? = some path)
    (failed : References.load host path false refs = .error e) (rest : List Value) :
    requireAll host (file :: rest) refs = (refs, .error e) := by
  simp only [requireAll_cons, named, failed]

/-- A file of a known type can be required, if there is one and its path may stand in a script. -/
theorem requireAll_singleton {file : Value} {path : String} {kind : ReferenceKind}
    (named : file.toText? = some path) (valid : Path.isValid (host.resolve path) = true)
    (present : host.isFile (host.resolve path) = true)
    (known : ReferenceKind.ofPath? (host.resolve path) = some kind) (refs : References) :
    requireAll host [file] refs = (refs.insert (host.resolve path) kind, .ok ()) := by
  have loaded := References.load_of_ofPath? valid present known false refs
  rw [requireAll_cons_of_load_eq_ok named loaded, requireAll_nil]

/-- The first file is referenced if requiring it and others succeeds: it cannot be skipped. -/
theorem requireAll_cons_eq_ok {file : Value} {rest : List Value} {refs done : References}
    (h : requireAll host (file :: rest) refs = (done, .ok ())) :
    ∃ path kind, file.toText? = some path ∧
      ReferenceKind.ofPath? (host.resolve path) = some kind ∧
      References.load host path false refs =
        .ok (refs.insert (host.resolve path) kind, some kind) ∧
      requireAll host rest (refs.insert (host.resolve path) kind) = (done, .ok ()) := by
  cases named : file.toText? with
  | none =>
    rw [requireAll_cons, named] at h
    cases h
  | some path =>
    cases loaded : References.load host path false refs with
    | error e =>
      rw [requireAll_cons_of_load_eq_error named loaded] at h
      cases h
    | ok result =>
      obtain ⟨next, kind⟩ := result
      rw [requireAll_cons_of_load_eq_ok named loaded] at h
      obtain ⟨skipped, -⟩ | ⟨known, rfl, -, -, found, rfl⟩ := References.load_eq_ok loaded
      · cases skipped
      · exact ⟨path, known, rfl, found, loaded, h⟩

/-- **Required files** in front are referenced before the ones behind. -/
theorem requireAll_append {front : List Value} {refs done : References}
    (h : requireAll host front refs = (done, .ok ())) (back : List Value) :
    requireAll host (front ++ back) refs = requireAll host back done := by
  induction front generalizing refs with
  | nil =>
    cases h
    rfl
  | cons file front ih =>
    obtain ⟨path, kind, named, -, loaded, behind⟩ := requireAll_cons_eq_ok h
    rw [List.cons_append, requireAll_cons_of_load_eq_ok named loaded]
    exact ih behind

/-- Required files only add references. -/
theorem growsTo_of_requireAll_eq_ok {files : List Value} {refs done : References}
    (h : requireAll host files refs = (done, .ok ())) : refs.GrowsTo done := by
  induction files generalizing refs with
  | nil =>
    cases h
    exact References.GrowsTo.refl done
  | cons file files ih =>
    obtain ⟨path, kind, -, found, -, behind⟩ := requireAll_cons_eq_ok h
    exact (References.growsTo_insert found).trans (ih behind)

/-- **Required files** are all referenced unless it fails. -/
theorem holdsFile_of_requireAll_eq_ok {files : List Value} {refs done : References}
    (typed : refs.IsTyped) (h : requireAll host files refs = (done, .ok ())) :
    ∀ file ∈ files, done.HoldsFile host file := by
  induction files generalizing refs with
  | nil => exact fun _ absent => nomatch absent
  | cons file files ih =>
    obtain ⟨path, kind, named, found, -, behind⟩ := requireAll_cons_eq_ok h
    have typedNext := (References.growsTo_insert found typed).1
    have kept := (growsTo_of_requireAll_eq_ok behind typedNext).2
    rw [List.forall_mem_cons]
    refine ⟨⟨path, kind, named, found, ?_⟩, ih typedNext behind⟩
    exact kept.mem (References.mem_insert_self _ kind refs)

/-! ## Calls -/

variable {plugin : Plugin} {values : List Value} {s changed : Script} {e : Failure}

/-- **Calls**: one that fails leaves the script as it was. -/
theorem invoke_eq_error (h : invoke host plugin values s = (changed, .error e)) : changed = s := by
  unfold invoke at h
  split at h
  · exact (congrArg Prod.fst h).symm
  · split at h
    · exact (congrArg Prod.fst h).symm
    · dsimp only at h
      split at h <;> cases h

/-- A call that does not bind leaves the script as it was. -/
theorem invoke_of_code_eq_error (h : plugin.code values = .error e) (s : Script) :
    invoke host plugin values s = (s, .error e) := by
  simp only [invoke, h]

/-- A call whose required files do not load leaves the script as it was. -/
theorem invoke_of_requireAll_eq_error {line : Option String} {gathered : References}
    (written : plugin.code values = .ok line)
    (h : requireAll host plugin.requires [] = (gathered, .error e)) (s : Script) :
    invoke host plugin values s = (s, .error e) := by
  simp only [invoke, written, h]

/-- **Calls**: one that succeeds puts its line behind the code, if it writes one, and references all
that the filter requires. -/
theorem invoke_eq_ok (h : invoke host plugin values s = (changed, .ok ())) :
    ∃ line required, plugin.code values = .ok line ∧
      requireAll host plugin.requires [] = (required, .ok ()) ∧
      changed.rawCode = line.toList.foldl appendLines s.rawCode ∧
      changed.references = s.references.merge required := by
  unfold invoke at h
  split at h
  · cases h
  · next line written =>
    split at h
    · cases h
    · next required gathered =>
      refine ⟨line, required, written, gathered, ?_⟩
      dsimp only at h
      split at h <;> cases h <;> exact ⟨rfl, rfl⟩

end Require

/-! ## The whole script -/

/-- **The whole script**: the directive of each reference precedes the code. -/
theorem exists_fullCode_eq {s : Script} {shared : References} {entry : String × ReferenceKind}
    (h : entry ∈ s.allReferences shared) :
    ∃ before between, s.fullCode shared = before ++ directiveLine entry ++ between ++ s.body := by
  obtain ⟨front, back, whole⟩ := List.append_of_mem h
  refine ⟨String.join (front.map directiveLine), String.join (back.map directiveLine), ?_⟩
  rw [fullCode, whole, List.map_append, List.map_cons, String.join_append, String.join_cons]
  simp only [String.append_assoc]

end Script

end FilterScript
