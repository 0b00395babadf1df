import FilterScript.Proofs.Path.Canonical
import FilterScript.Storage
import Mathlib.Data.List.Basic

/-!
# Making and removing folders

Folders are made one behind the other on the way to a place, unless a file is in the way; what is
removed takes all below it away. A path without dots leads along the folders that its names stand for.

* **Making** (`exists_makeFolders`, `makeFolders_cases`): each place on the way is a folder then, and no
  other changes.
* **Removing** (`node?_remove`): nothing is left at a place and below it, and no other changes.
* **Two trees** (`node?_graft`, `remove_graft`): what is grafted is seen at its place and below it only.
* **Saving** (`save_cases`): a file and the folders around it, unless something is in the way.
* **Walking** (`reaches_of_plain`, `reaches_joined`): a path without dots is walked along the folders of
  its names, also behind a directory.
-/

namespace FilterScript

namespace FileTree

variable {α : Type} {t u : FileTree α} {place other : List String}

/-! ## Looking -/

/-- The root of a tree is a folder. -/
theorem node?_nil (t : FileTree α) : t.node? [] = some .folder :=
  rfl

/-- A folder has no content. -/
theorem content?_of_folder (h : t.node? place = some .folder) : t.content? place = none := by
  rw [content?, h]

/-- A place shows the same content in trees that show the same node there. -/
theorem content?_congr (h : t.node? place = u.node? place) : t.content? place = u.content? place := by
  rw [content?, content?, h]

/-- The test for a folder, in terms of the node at the place. -/
theorem isFolder_iff : t.isFolder place = true ↔ t.node? place = some .folder := by
  unfold isFolder
  split
  · next h => simp [h]
  · next h => simpa using h

/-- A place has a content when a file with that content is there. -/
theorem content?_eq_some_iff {content : α} :
    t.content? place = some content ↔ t.node? place = some (.file content) := by
  unfold content?
  split
  · next h => simp [h]
  · next h => simpa using h content

/-- A place without a file has no content. -/
theorem isFile_eq_false_iff : t.isFile place = false ↔ t.content? place = none := by
  rw [isFile, Option.isSome_eq_false_iff, Option.isNone_iff_eq_none]

/-! ## Making -/

/-- One step of making folders: a file blocks, a folder is passed, and what is missing is made. -/
theorem makeFoldersBelow_cons (t : FileTree α) (start : List String) (name : String)
    (rest : List String) :
    t.makeFoldersBelow start (name :: rest) =
      match t.node? (start ++ [name]) with
      | some (.file _) => none
      | some .folder => t.makeFoldersBelow (start ++ [name]) rest
      | none => (t.put (start ++ [name]) .folder).makeFoldersBelow (start ++ [name]) rest :=
  rfl

/-- What is on the way from a place to another one is the next place or behind it. -/
theorem onWay_cons_iff {start rest : List String} {name : String} :
    start.length < other.length ∧ other <+: start ++ name :: rest ↔
      other = start ++ [name] ∨
        (start ++ [name]).length < other.length ∧ other <+: start ++ [name] ++ rest := by
  have shift : start ++ name :: rest = start ++ [name] ++ rest := by simp
  rw [shift, List.length_append, List.length_singleton]
  constructor
  · rintro ⟨longer, onWay⟩
    by_cases next : other.length = start.length + 1
    · have both : start ++ [name] <+: start ++ [name] ++ rest := List.prefix_append _ _
      have within : other <+: start ++ [name] :=
        List.prefix_of_prefix_length_le onWay both (by simp [next])
      exact .inl (within.eq_of_length (by simp [next]))
    · exact .inr ⟨by omega, onWay⟩
  · rintro (rfl | ⟨longer, onWay⟩)
    · exact ⟨by simp, List.prefix_append _ _⟩
    · exact ⟨by omega, onWay⟩

/-- Where no file is on the way the folders get made, and all other places stay. The induction is on
the names still to come, with the place reached so far kept general. -/
theorem exists_makeFoldersBelow {rest : List String} (start : List String)
    (unblocked : ∀ other, start.length < other.length → other <+: start ++ rest →
      t.content? other = none) :
    ∃ made, t.makeFoldersBelow start rest = some made ∧ ∀ other, made.node? other =
      if start.length < other.length ∧ other <+: start ++ rest then some .folder
      else t.node? other := by
  induction rest generalizing t start with
  | nil =>
    refine ⟨t, rfl, fun other => ?_⟩
    have nowhere : ¬(start.length < other.length ∧ other <+: start ++ []) := by
      rw [List.append_nil]
      rintro ⟨longer, onWay⟩
      exact absurd onWay.length_le (by omega)
    rw [if_neg nowhere]
  | cons name rest ih =>
    have below : start ++ [name] ≠ [] := by simp
    -- the folder at the next place is there already, or is put there
    obtain ⟨u, step, atNext, elsewhere⟩ : ∃ u : FileTree α,
        t.makeFoldersBelow start (name :: rest) = u.makeFoldersBelow (start ++ [name]) rest ∧
        u.node? (start ++ [name]) = some .folder ∧
        ∀ other, other ≠ start ++ [name] → u.node? other = t.node? other := by
      rw [makeFoldersBelow_cons]
      cases there : t.node? (start ++ [name]) with
      | none => exact ⟨_, rfl, node?_put_self t .folder below, fun _ => node?_put_of_ne t .folder⟩
      | some node =>
        cases node with
        | folder => exact ⟨t, rfl, there, fun _ _ => rfl⟩
        | file content =>
          have free := unblocked (start ++ [name]) (by simp) (onWay_cons_iff.2 (.inl rfl)).2
          rw [content?, there] at free
          cases free
    have unblockedThen : ∀ other, (start ++ [name]).length < other.length →
        other <+: start ++ [name] ++ rest → u.content? other = none := by
      intro other longer onWay
      have behind := onWay_cons_iff.2 (.inr ⟨longer, onWay⟩)
      have ne : other ≠ start ++ [name] := fun same => absurd longer (by rw [same]; omega)
      rw [content?_congr (elsewhere other ne)]
      exact unblocked other behind.1 behind.2
    obtain ⟨made, done, nodes⟩ := ih (start ++ [name]) unblockedThen
    refine ⟨made, step.trans done, fun other => ?_⟩
    rw [nodes]
    by_cases next : other = start ++ [name]
    · rw [if_pos (onWay_cons_iff.2 (.inl next)), next, atNext, ite_self]
    · rw [elsewhere other next]
      simp only [onWay_cons_iff, next, false_or]

/-- **Making**: without a file in the way, each place on the way is a folder then. -/
theorem exists_makeFolders (unblocked : ∀ other, other <+: place → t.content? other = none) :
    ∃ made, t.makeFolders place = some made ∧ ∀ other, made.node? other =
      if other <+: place then some .folder else t.node? other := by
  obtain ⟨made, done, nodes⟩ := exists_makeFoldersBelow [] fun other _ => unblocked other
  refine ⟨made, done, fun other => ?_⟩
  rw [nodes]
  by_cases top : other = []
  · rw [top, node?_nil, ite_self, ite_self]
  · simp [List.length_pos_iff, top]

/-- Where the folders were made no file was on the way. -/
theorem content?_eq_none_of_makeFoldersBelow {rest : List String} {made : FileTree α}
    {start : List String} (done : t.makeFoldersBelow start rest = some made)
    (longer : start.length < other.length) (onWay : other <+: start ++ rest) :
    t.content? other = none := by
  induction rest generalizing t start with
  | nil =>
    rw [List.append_nil] at onWay
    exact absurd onWay.length_le (by omega)
  | cons name rest ih =>
    rw [makeFoldersBelow_cons] at done
    have cases := onWay_cons_iff.1 ⟨longer, onWay⟩
    cases there : t.node? (start ++ [name]) with
    | none =>
      rw [there] at done
      rcases cases with rfl | ⟨behind, further⟩
      · rw [content?, there]
      · have ne : other ≠ start ++ [name] := fun same => absurd behind (by rw [same]; omega)
        rw [← content?_congr (node?_put_of_ne t .folder ne)]
        exact ih done behind further
    | some node =>
      rw [there] at done
      cases node with
      | file content => cases done
      | folder =>
        rcases cases with rfl | ⟨behind, further⟩
        · exact content?_of_folder there
        · exact ih done behind further

/-- **Making**: folders are made unless a file is in the way. -/
theorem makeFolders_cases (t : FileTree α) (place : List String) :
    (∃ other, other <+: place ∧ t.isFile other = true) ∧ t.makeFolders place = none ∨
      (¬∃ other, other <+: place ∧ t.isFile other = true) ∧
        ∃ made, t.makeFolders place = some made ∧ ∀ other, made.node? other =
          if other <+: place then some .folder else t.node? other := by
  by_cases file : ∃ other, other <+: place ∧ t.isFile other = true
  · refine .inl ⟨file, ?_⟩
    obtain ⟨other, onWay, isFile⟩ := file
    have longer : ([] : List String).length < other.length := by
      cases other with
      | nil => cases isFile
      | cons name rest => exact Nat.succ_pos _
    cases done : t.makeFolders place with
    | none => rfl
    | some made =>
      have free := content?_eq_none_of_makeFoldersBelow done longer onWay
      rw [← isFile_eq_false_iff, isFile] at free
      cases free
  · refine .inr ⟨file, exists_makeFolders fun other onWay => ?_⟩
    rw [← isFile_eq_false_iff, ← Bool.not_eq_true]
    exact fun isFile => file ⟨other, onWay, isFile⟩

/-- Making folders writes no file and removes none. -/
theorem content?_of_makeFolders {made : FileTree α}
    (nodes : ∀ other, made.node? other = if other <+: place then some .folder else t.node? other)
    (unblocked : ∀ other, other <+: place → t.content? other = none) (other : List String) :
    made.content? other = t.content? other := by
  by_cases onWay : other <+: place
  · rw [unblocked other onWay, content?_of_folder]
    rw [nodes, if_pos onWay]
  · exact content?_congr ((nodes other).trans (if_neg onWay))

/-- In a tree that is made with a folder are the folders on the way to it. -/
theorem node?_addFolder_nil (place other : List String) :
    ((⟨[]⟩ : FileTree α).addFolder place).node? other =
      if other <+: place then some .folder else none := by
  have empty : ∀ other, (⟨[]⟩ : FileTree α).content? other = none := by
    intro other
    cases other <;> rfl
  obtain ⟨made, done, nodes⟩ := exists_makeFolders fun other _ => empty other
  rw [addFolder, done, Option.getD_some, nodes]
  cases other with
  | nil => simp
  | cons name rest => rfl

/-- A tree of one folder and the folders above it has no files. -/
theorem content?_addFolder_nil (place other : List String) :
    ((⟨[]⟩ : FileTree α).addFolder place).content? other = none := by
  rw [content?, node?_addFolder_nil]
  by_cases onWay : other <+: place <;> simp [onWay]

/-! ## Removing -/

/-- The entry at a place after a selection by places. -/
theorem lookup_filter (keeps : List String → Bool) (place : List String)
    (entries : List (List String × FileNode α)) :
    (entries.filter fun (found, _) => keeps found).lookup place =
      if keeps place then entries.lookup place else none := by
  induction entries with
  | nil => simp
  | cons entry rest ih =>
    obtain ⟨found, node⟩ := entry
    by_cases here : place = found
    · subst here
      cases kept : keeps place <;> simp [kept, ih]
    · have hb : (place == found) = false := by simpa using here
      cases kept : keeps found <;> simp [kept, hb, List.lookup_cons, ih]

/-- **Removing**: nothing is left at a place and below it. -/
theorem node?_remove (t : FileTree α) (place : List String) {other : List String}
    (below : other ≠ []) :
    (t.remove place).node? other = if place <+: other then none else t.node? other := by
  have proper : other.isEmpty = false := by simpa using below
  have kept : (!place.isPrefixOf other) = true ↔ ¬place <+: other := by
    rw [Bool.not_eq_true', ← Bool.not_eq_true, List.isPrefixOf_iff_prefix]
  simp only [node?, proper, Bool.false_eq_true, if_false]
  exact (lookup_filter (fun found => !place.isPrefixOf found) other t.entries).trans
    (by simp only [kept, ite_not])

/-- Removing brings no file about. -/
theorem content?_remove_of_none (t : FileTree α) (place : List String) {other : List String}
    (none : t.content? other = none) : (t.remove place).content? other = Option.none := by
  by_cases top : other = []
  · rw [top, content?_of_folder (node?_nil _)]
  · by_cases below : place <+: other
    · rw [content?, node?_remove t place top, if_pos below]
    · rw [content?_congr ((node?_remove t place top).trans (if_neg below)), none]

/-- Nothing is left at the place itself, unless it is the root, which is no file. -/
theorem isFile_remove_self (t : FileTree α) (place : List String) :
    (t.remove place).isFile place = false := by
  rw [isFile_eq_false_iff]
  by_cases top : place = []
  · rw [top, content?_of_folder (node?_nil _)]
  · rw [content?, node?_remove t place top, if_pos List.prefix_rfl]

/-! ## Two trees -/

/-- The entry at a place, with other contents. -/
theorem lookup_map {β : Type} (f : α → β) (place : List String)
    (entries : List (List String × FileNode α)) :
    (entries.map fun (found, node) => (found, node.map f)).lookup place =
      (entries.lookup place).map (FileNode.map f) := by
  induction entries with
  | nil => rfl
  | cons entry rest ih =>
    rw [List.map_cons, List.lookup_cons, List.lookup_cons]
    cases place == entry.1 with
    | true => rfl
    | false => exact ih

/-- The same places are files in a tree with other contents. -/
theorem isFile_map {β : Type} (f : α → β) (t : FileTree α) (place : List String) :
    (t.map f).isFile place = t.isFile place := by
  have found : (t.map f).node? place = (t.node? place).map (FileNode.map f) := by
    unfold node? map
    split
    · rfl
    · exact lookup_map _ _ _
  rw [isFile, isFile, content?, content?, found]
  cases t.node? place with
  | none => rfl
  | some node => cases node <;> rfl

/-- **Two trees**: one is seen at a place and below it, and the other elsewhere. -/
theorem node?_graft (t u : FileTree α) (place : List String) {other : List String}
    (below : other ≠ []) :
    (t.graft u place).node? other = if place <+: other then u.node? other else t.node? other := by
  have proper : other.isEmpty = false := by simpa using below
  have first := lookup_filter (fun found => !place.isPrefixOf found) other t.entries
  have second := lookup_filter (fun found => place.isPrefixOf found) other u.entries
  simp only [node?, graft, proper, Bool.false_eq_true, if_false, List.lookup_append, first, second]
  by_cases inside : place <+: other
  · have isInside := List.isPrefixOf_iff_prefix.2 inside
    rw [isInside, if_pos rfl, if_pos inside, if_neg (by decide), Option.none_or]
  · have isOutside := Bool.eq_false_iff.2 (mt List.isPrefixOf_iff_prefix.1 inside)
    rw [isOutside, if_neg inside, if_neg Bool.false_ne_true, Option.or_none]
    rfl

/-- At the place itself the grafted tree has a file or not. -/
theorem isFile_graft_self (t u : FileTree α) (place : List String) :
    (t.graft u place).isFile place = u.isFile place := by
  by_cases top : place = []
  · rw [top, isFile, isFile, content?_of_folder (node?_nil _), content?_of_folder (node?_nil _)]
  · rw [isFile, isFile, content?_congr ((node?_graft t u place top).trans (if_pos List.prefix_rfl))]

/-- The entries of a folder that are left once something is removed. -/
theorem children_remove (t : FileTree α) (place other : List String) :
    (t.remove place).children other =
      (t.children other).filter fun name => !place.isPrefixOf (other ++ [name]) := by
  rw [children, remove, List.filterMap_filter, children, List.filter_filterMap]
  refine List.filterMap_congr fun ⟨found, _⟩ _ => ?_
  rcases List.eq_nil_or_concat' found with rfl | ⟨front, name, rfl⟩
  · simp
  · by_cases here : front = other
    · subst here
      simp [Option.filter]
    · simp [here]

/-- What was removed at a place can be removed again. -/
theorem remove_remove (t : FileTree α) (place : List String) :
    (t.remove place).remove place = t.remove place := by
  simp only [remove, List.filter_filter, Bool.and_self]

/-- **Two trees**: what is grafted at a place is all that is new. -/
theorem remove_graft (t u : FileTree α) (place : List String) :
    (t.graft u place).remove place = t.remove place := by
  have none : ((u.entries.filter fun (found, _) => place.isPrefixOf found).filter
      fun (found, _) => !place.isPrefixOf found) = [] := by
    rw [List.filter_filter, List.filter_eq_nil_iff]
    rintro ⟨found, node⟩ -
    simp
  rw [remove, graft, List.filter_append, none, List.append_nil]
  exact remove_remove t place

/-! ## Writing -/

/-- A file is written where no folder is if its folder is there, and no other place changes. -/
theorem exists_write (content : α) (free : t.node? place ≠ some .folder)
    (folder : t.node? place.dropLast = some .folder) :
    ∃ changed, t.write place content = some changed ∧ ∀ other, changed.node? other =
      if other = place then some (.file content) else t.node? other := by
  have below : place ≠ [] := by
    rintro rfl
    exact free (node?_nil t)
  have noFolder : t.isFolder place = false := by
    rw [← Bool.not_eq_true, isFolder_iff]
    exact free
  have written : t.write place content = some (t.put place (.file content)) := by
    rw [write, noFolder, isFolder_iff.2 folder]
    rfl
  refine ⟨_, written, fun other => ?_⟩
  split
  · next here => rw [here, node?_put_self t _ below]
  · next elsewhere => exact node?_put_of_ne t _ elsewhere

/-! ## Saving -/

/-- The tree with a file at a place and the folders on the way to it. -/
def save (t : FileTree α) (place : List String) (content : α) : Option (FileTree α) :=
  (t.makeFolders place.dropLast).bind fun made => made.write place content

/-- Whether something is in the way of a file at a place: a folder is there, or a file is above it.
-/
def Blocked (t : FileTree α) (place : List String) : Prop :=
  t.node? place = some .folder ∨
    ∃ other, other <+: place ∧ other ≠ place ∧ t.isFile other = true

/-- What is above a place is on the way to it and is not the place itself. -/
theorem prefix_dropLast_iff (below : place ≠ []) :
    other <+: place.dropLast ↔ other <+: place ∧ other ≠ place := by
  obtain rfl | ⟨front, name, rfl⟩ := List.eq_nil_or_concat place
  · exact absurd rfl below
  rw [List.concat_eq_append, List.dropLast_concat, List.prefix_concat_iff]
  constructor
  · intro inside
    refine ⟨.inr inside, ?_⟩
    rintro rfl
    exact absurd inside.length_le (by simp)
  · rintro ⟨whole | inside, ne⟩
    · exact absurd whole ne
    · exact inside

/-- **Saving**: unless something is in the way, the file is at its place, each place above it is a
folder, and no other changes. -/
theorem save_cases (t : FileTree α) (place : List String) (content : α) :
    (t.Blocked place ∧ t.save place content = none) ∨
      ¬t.Blocked place ∧ ∃ saved, t.save place content = some saved ∧ ∀ other, saved.node? other =
        if other = place then some (.file content)
        else if other <+: place then some .folder else t.node? other := by
  by_cases top : place = []
  · subst top
    exact .inl ⟨.inl (node?_nil t), rfl⟩
  rcases t.makeFolders_cases place.dropLast with
    ⟨⟨other, inside, isFile⟩, failed⟩ | ⟨file, made, done, nodes⟩
  · obtain ⟨onWay, ne⟩ := (prefix_dropLast_iff top).1 inside
    refine .inl ⟨.inr ⟨other, onWay, ne, isFile⟩, ?_⟩
    rw [save, failed, Option.bind_none]
  have step : t.save place content = made.write place content := by
    rw [save, done, Option.bind_some]
  have same : made.node? place = t.node? place := by
    rw [nodes, if_neg]
    exact fun inside => ((prefix_dropLast_iff top).1 inside).2 rfl
  by_cases folder : t.node? place = some .folder
  · refine .inl ⟨.inl folder, ?_⟩
    rw [step, write, isFolder_iff.2 (same.trans folder)]
    rfl
  · have around : made.node? place.dropLast = some .folder := by
      rw [nodes, if_pos List.prefix_rfl]
    obtain ⟨saved, written, changed⟩ := exists_write content (same ▸ folder) around
    refine .inr ⟨?_, saved, step.trans written, fun other => ?_⟩
    · rintro (here | ⟨other, onWay, ne, isFile⟩)
      · exact folder here
      · exact file ⟨other, (prefix_dropLast_iff top).2 ⟨onWay, ne⟩, isFile⟩
    · rw [changed, nodes]
      by_cases here : other = place
      · rw [if_pos here, if_pos here]
      · rw [if_neg here, if_neg here]
        simp only [prefix_dropLast_iff top, here, ne_eq, not_false_eq_true, and_true]

end FileTree

namespace Storage

/-! ## Walking -/

variable {files : FileTree String}

/-- **Walking**: a path of names is walked along if each place on the way is a folder. -/
theorem reaches_of_plain {pieces : List (List Char)}
    (plain : ∀ piece ∈ pieces, piece = [] ∨ Path.IsName piece) (start : List String)
    (folders : ∀ place, place <+: start ++ (pieces.filter (· ≠ [])).map String.ofList →
      files.isFolder place = true) :
    reaches files start pieces = true := by
  induction pieces generalizing start with
  | nil => exact folders start (List.prefix_append start _)
  | cons piece rest ih =>
    obtain ⟨first, others⟩ := List.forall_mem_cons.1 plain
    have here := folders start (List.prefix_append start _)
    unfold reaches
    rw [here, Bool.true_and]
    rcases first with rfl | ⟨some, notDot, notDots⟩
    · rw [if_pos (.inl rfl)]
      exact ih others start (by simpa using folders)
    · rw [if_neg (by simp [some, notDot]), if_neg notDots]
      refine ih others (start ++ [String.ofList piece]) fun place onWay => folders place ?_
      simpa [some] using onWay

/-- The place behind a walk, which keeps its names last one first. -/
def placeOf (done : List (List Char)) : List String :=
  done.reverse.map String.ofList

/-- A piece pushed on the stack is the last name of the place. -/
theorem placeOf_cons (piece : List Char) (done : List (List Char)) :
    placeOf (piece :: done) = placeOf done ++ [String.ofList piece] := by
  rw [placeOf, placeOf, List.reverse_cons, List.map_append, List.map_singleton]

/-- Going up a folder drops the last name of the place. -/
theorem placeOf_drop_one (done : List (List Char)) :
    placeOf (done.drop 1) = (placeOf done).dropLast := by
  cases done with
  | nil => rfl
  | cons piece rest => rw [placeOf_cons, List.dropLast_concat, List.drop_one, List.tail_cons]

/-- A walk goes on behind its front from where that ends. -/
theorem reaches_append (front back : List (List Char)) (done : List (List Char)) :
    reaches files (placeOf done) (front ++ back) =
      (reaches files (placeOf done) front &&
        reaches files (placeOf (front.foldl Path.push done)) back) := by
  induction front generalizing done with
  | nil =>
    -- where a walk begins is a folder, whatever comes behind
    have first : reaches files (placeOf done) back =
        (files.isFolder (placeOf done) && reaches files (placeOf done) back) := by
      cases back with
      | nil => simp [reaches]
      | cons piece rest => simp [reaches]
    exact first
  | cons piece rest ih =>
    rw [List.cons_append, List.foldl_cons, reaches, reaches, Bool.and_assoc]
    congr 1
    unfold Path.push
    split
    · exact ih done
    · split
      · rw [← placeOf_drop_one]
        exact ih (done.drop 1)
      · rw [← placeOf_cons]
        exact ih (piece :: done)

/-- What a walk comes by is a folder, and so is all on the way to where it ends. -/
theorem isFolder_of_reaches {pieces done : List (List Char)}
    (walks : reaches files (placeOf done) pieces = true)
    (above : ∀ place, place <+: placeOf done → place ≠ placeOf done → files.isFolder place = true)
    {place : List String} (onWay : place <+: placeOf (pieces.foldl Path.push done)) :
    files.isFolder place = true := by
  induction pieces generalizing done with
  | nil =>
    by_cases here : place = placeOf done
    · rw [here]
      exact walks
    · exact above place onWay here
  | cons piece rest ih =>
    rw [List.foldl_cons] at onWay
    unfold reaches at walks
    obtain ⟨here, further⟩ := Bool.and_eq_true_iff.1 walks
    have upTo : ∀ place, place <+: placeOf done → files.isFolder place = true := by
      intro place inside
      by_cases whole : place = placeOf done
      · rw [whole]
        exact here
      · exact above place inside whole
    unfold Path.push at onWay
    split at onWay
    · next nothing =>
      rw [if_pos nothing] at further
      exact ih further above onWay
    · next something =>
      rw [if_neg something] at further
      split at onWay
      · next dots =>
        rw [if_pos dots, ← placeOf_drop_one] at further
        refine ih further (fun place inside _ => upTo place ?_) onWay
        rw [placeOf_drop_one] at inside
        exact inside.trans (List.dropLast_prefix _)
      · next name =>
        rw [if_neg name, ← placeOf_cons] at further
        refine ih further (fun place inside ne => upTo place ?_) onWay
        rw [placeOf_cons] at inside ne
        exact (List.prefix_concat_iff.1 inside).resolve_left ne

/-- Where there are more folders, a walk still goes through. -/
theorem reaches_mono {more : FileTree String} {start : List String} {pieces : List (List Char)}
    (walks : reaches files start pieces = true)
    (kept : ∀ place, files.isFolder place = true → more.isFolder place = true) :
    reaches more start pieces = true := by
  induction pieces generalizing start with
  | nil => exact kept start walks
  | cons piece rest ih =>
    unfold reaches at walks ⊢
    obtain ⟨here, further⟩ := Bool.and_eq_true_iff.1 walks
    rw [kept start here, Bool.true_and]
    split
    · next nothing =>
      rw [if_pos nothing] at further
      exact ih further
    · next something =>
      rw [if_neg something] at further
      split
      · next dots =>
        rw [if_pos dots] at further
        exact ih further
      · next name =>
        rw [if_neg name] at further
        exact ih further

/-- **Walking**: behind a slash, names are walked along if each place on the way is a folder. -/
theorem reaches_append_slash {front back : List Char}
    (walks : reaches files [] (front.splitOn '/') = true) (plain : Path.IsPlain back)
    (folders : ∀ place, place <+: (Path.segmentsOf (front ++ '/' :: back)).map String.ofList →
      files.isFolder place = true) :
    reaches files [] ((front ++ '/' :: back).splitOn '/') = true := by
  rw [Path.segmentsOf_append_of_isPlain plain, List.map_append] at folders
  rw [List.splitOn_append_cons_self]
  refine (reaches_append (front.splitOn '/') (back.splitOn '/') []).trans ?_
  rw [Bool.and_eq_true]
  exact ⟨walks, reaches_of_plain plain _ folders⟩

/-- **Walking**: a path of names behind a directory is walked along if the directory is there and
each place on the way is a folder. -/
theorem reaches_joined {directory path : String}
    (walks : reaches files [] (directory.toList.splitOn '/') = true)
    (plain : Path.IsPlain path.toList)
    (folders : ∀ place, place <+: Path.names (Path.joined directory path) →
      files.isFolder place = true) :
    reaches files [] ((Path.joined directory path).toList.splitOn '/') = true := by
  have alone : Path.join directory.toList path.toList = path.toList →
      reaches files [] ((Path.joined directory path).toList.splitOn '/') = true := by
    intro same
    rw [Path.joined, same, String.ofList_toList, Path.names_of_isPlain plain] at folders
    rw [Path.joined, same, String.ofList_toList]
    exact reaches_of_plain plain [] folders
  have behind : ∀ front, reaches files [] (front.splitOn '/') = true →
      Path.join directory.toList path.toList = front ++ '/' :: path.toList →
      reaches files [] ((Path.joined directory path).toList.splitOn '/') = true := by
    intro front reached same
    rw [Path.names, Path.joined, String.toList_ofList, same] at folders
    rw [Path.joined, String.toList_ofList, same]
    exact reaches_append_slash reached plain folders
  by_cases absolute : ∃ rest, path.toList = '/' :: rest
  · obtain ⟨rest, absolute⟩ := absolute
    refine alone ?_
    rw [absolute]
    rfl
  have relative : Path.join directory.toList path.toList =
      if directory.toList = [] ∨ directory.toList.getLast? = some '/' then
        directory.toList ++ path.toList
      else directory.toList ++ '/' :: path.toList := by
    unfold Path.join
    split
    · next rest same => exact absurd ⟨rest, same⟩ absolute
    · rfl
  split at relative
  · next h =>
    rcases h with empty | ended
    · refine alone ?_
      rw [relative, empty, List.nil_append]
    · obtain ⟨front, whole⟩ := List.getLast?_eq_some_iff.1 ended
      refine behind front ?_ ?_
      · rw [whole, List.splitOn_append_cons_self] at walks
        have both : reaches files [] (front.splitOn '/' ++ [].splitOn '/') =
            (reaches files [] (front.splitOn '/') && _) :=
          reaches_append (front.splitOn '/') ([].splitOn '/') []
        rw [walks] at both
        exact (Bool.and_eq_true_iff.1 both.symm).1
      · rw [relative, whole, List.append_assoc, List.singleton_append]
  · exact behind _ walks relative

end Storage

end FilterScript
