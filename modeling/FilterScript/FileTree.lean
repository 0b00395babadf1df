/-!
# Trees of files

A tree of folders and files, addressed by the names on the way from the root. The root is always
there, and so is every folder on the way to an entry. Any text can be a name in a tree: what a machine
refuses as one, for its length or for a character, is for those who open paths. The main statements
say what becomes of each place when something is put at one.
-/

namespace FilterScript

/-- What is at a place in a tree. -/
inductive FileNode (α : Type) where
  /-- A folder. -/
  | folder
  /-- A file with its content. -/
  | file (content : α)

/-- The node with other contents. -/
def FileNode.map {α β : Type} (f : α → β) : FileNode α → FileNode β
  | .folder => .folder
  | .file content => .file (f content)

/-- A tree of folders and files. -/
structure FileTree (α : Type) where
  /-- The entries below the root with their places. -/
  entries : List (List String × FileNode α) := []

namespace FileTree

variable {α : Type}

/-! ## Looking -/

/-- What is at a place. -/
def node? (t : FileTree α) (place : List String) : Option (FileNode α) :=
  if place.isEmpty then some .folder else t.entries.lookup place

/-- The content of the file at a place. -/
def content? (t : FileTree α) (place : List String) : Option α :=
  match t.node? place with
  | some (.file content) => some content
  | _ => none

/-- Whether there is a file at a place. -/
def isFile (t : FileTree α) (place : List String) : Bool :=
  (t.content? place).isSome

/-- Whether there is a folder at a place. -/
def isFolder (t : FileTree α) (place : List String) : Bool :=
  match t.node? place with
  | some .folder => true
  | _ => false

/-- The place where the segments of a path lead from a folder, each taken where the ones before it
led. A segment with others behind it has to lead to a folder. -/
def walk (t : FileTree α) : List String → List (List Char) → Option (List String)
  | place, [] => some place
  | place, segment :: rest =>
    if segment = [] ∨ segment = ['.'] then walk t place rest
    else if segment = ['.', '.'] then walk t place.dropLast rest
    else
      let next := place ++ [String.ofList segment]
      if rest.isEmpty || t.isFolder next then walk t next rest else none

/-- The names of the entries of a folder. -/
def children (t : FileTree α) (place : List String) : List String :=
  t.entries.filterMap fun (p, _) => if p.dropLast = place then p.getLast? else none

/-! ## Two trees -/

/-- The tree with other contents. -/
def map {β : Type} (f : α → β) (t : FileTree α) : FileTree β :=
  ⟨t.entries.map fun (p, node) => (p, node.map f)⟩

/-- The tree that has what another tree has at a place and below it, and is as it was elsewhere. -/
def graft (t other : FileTree α) (place : List String) : FileTree α :=
  ⟨t.entries.filter (fun (p, _) => !place.isPrefixOf p) ++
    other.entries.filter fun (p, _) => place.isPrefixOf p⟩

/-! ## Changing -/

/-- The tree with a node at a place, in place of what was there. -/
def put (t : FileTree α) (place : List String) (node : FileNode α) : FileTree α :=
  if place.isEmpty then t
  else if (t.node? place).isSome then
    ⟨t.entries.map fun (p, old) => if p = place then (p, node) else (p, old)⟩
  else ⟨t.entries ++ [(place, node)]⟩

/-- An entry that is replaced is found at its place. -/
theorem lookup_replace_self (entries : List (List String × FileNode α)) (place : List String)
    (node : FileNode α) (h : (entries.lookup place).isSome) :
    (entries.map fun (p, old) => if p = place then (p, node) else (p, old)).lookup place =
      some node := by
  induction entries with
  | nil => simp at h
  | cons head rest ih =>
    obtain ⟨p, old⟩ := head
    by_cases hp : p = place
    · simp [hp]
    · have hb : (place == p) = false := by simpa using fun e : place = p => hp e.symm
      simp only [List.lookup_cons, hb] at h
      simp [hp, List.lookup_cons, hb, ih h]

/-- Replacing an entry changes no other. -/
theorem lookup_replace_of_ne (entries : List (List String × FileNode α)) (place other : List String)
    (node : FileNode α) (h : other ≠ place) :
    (entries.map fun (p, old) => if p = place then (p, node) else (p, old)).lookup other =
      entries.lookup other := by
  induction entries with
  | nil => rfl
  | cons head rest ih =>
    obtain ⟨p, old⟩ := head
    by_cases hp : p = place
    · have hb : (other == p) = false := by simpa [hp] using h
      simp only [List.map_cons, if_pos hp, List.lookup_cons, hb, ih]
    · simp only [List.map_cons, if_neg hp, List.lookup_cons, ih]

/-- What is put at a place below the root is there. -/
theorem node?_put_self (t : FileTree α) {place : List String} (node : FileNode α)
    (h : place ≠ []) : (t.put place node).node? place = some node := by
  have hp : place.isEmpty = false := by simpa using h
  simp only [put, hp, Bool.false_eq_true, if_false]
  split
  · next there =>
    simp only [node?, hp, Bool.false_eq_true, if_false] at there ⊢
    exact lookup_replace_self t.entries place node there
  · next missing =>
    simp only [node?, hp, Bool.false_eq_true, if_false, Option.not_isSome_iff_eq_none] at missing ⊢
    simp [List.lookup_append, missing]

/-- Putting a node changes nothing at other places. -/
theorem node?_put_of_ne (t : FileTree α) {place other : List String} (node : FileNode α)
    (h : other ≠ place) : (t.put place node).node? other = t.node? other := by
  by_cases ho : other = []
  · simp [node?, ho]
  · have hb : other.isEmpty = false := by simpa using ho
    unfold put
    split
    · rfl
    · split
      · simp only [node?, hb, Bool.false_eq_true, if_false]
        exact lookup_replace_of_ne t.entries place other node h
      · have hne : (other == place) = false := by simpa using h
        simp [node?, hb, List.lookup_append, List.lookup_cons, hne]

/-- The tree with the folders on the way from one place to another below it, unless a file is in the
way. -/
def makeFoldersBelow (t : FileTree α) (place : List String) : List String → Option (FileTree α)
  | [] => some t
  | name :: rest =>
    let next := place ++ [name]
    match t.node? next with
    | some (.file _) => none
    | some .folder => makeFoldersBelow t next rest
    | none => makeFoldersBelow (t.put next .folder) next rest

/-- The tree with a folder at a place and folders on the way to it, unless a file is in the way. -/
def makeFolders (t : FileTree α) (place : List String) : Option (FileTree α) :=
  t.makeFoldersBelow [] place

/-- The tree with a file at a place, unless a folder is there or the folder around it is missing. -/
def write (t : FileTree α) (place : List String) (content : α) : Option (FileTree α) :=
  if t.isFolder place || !t.isFolder place.dropLast then none
  else some (t.put place (.file content))

/-- The tree without a place and all below it. -/
def remove (t : FileTree α) (place : List String) : FileTree α :=
  ⟨t.entries.filter fun (p, _) => !place.isPrefixOf p⟩

/-! ## Building -/

/-- The tree with one more folder and those on the way to it. A file in the way wins. -/
def addFolder (t : FileTree α) (place : List String) : FileTree α :=
  (t.makeFolders place).getD t

/-- The tree with one more file and the folders on the way to it. -/
def addFile (t : FileTree α) (place : List String) (content : α) : FileTree α :=
  (t.addFolder place.dropLast).put place (.file content)

end FileTree

end FilterScript
