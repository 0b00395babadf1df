import FilterScript.Error
import FilterScript.FileTree
import FilterScript.Path

/-!
# The host

What the library sees of the machine it runs on: the working directory, the number of the process,
the file that the environment names as the configuration, and the files. A file holds text, or
stands for the value that its text means. There are no links among the folders and files.

A file is told to be there by its absolute path, in which `..` takes back the name in front of it. A
file that is opened is reached name by name, and every folder on the way has to be there.
-/

namespace FilterScript

/-- What a file holds. -/
inductive Document where
  /-- Text. -/
  | text (s : String)
  /-- A document with the given meaning. -/
  | data (v : Value)
  /-- Bytes that are no text, and are met before the text in front of them is told to be no document.
  -/
  | undecodable
  /-- What is not opened for this process. -/
  | locked

/-- The machine as it is seen by one run. -/
structure Host where
  /-- The working directory, an absolute path to a folder that is there. -/
  directory : String := "/"
  /-- The number of the process. -/
  processId : Nat := 0
  /-- The configuration file that the environment names. -/
  configVariable : Option String := none
  /-- The files and folders. -/
  files : FileTree Document := ⟨[]⟩

namespace Host

/-- The absolute path that a path means. -/
def resolve (h : Host) (path : String) : String :=
  Path.resolve h.directory path

/-- The place of a path in the tree of files. -/
def place (h : Host) (path : String) : List String :=
  Path.names (h.resolve path)

/-- Whether there is a file at a path. -/
def isFile (h : Host) (path : String) : Bool :=
  h.files.isFile (h.place path)

/-- The names in a directory, in the order of their code points. -/
def listDirectory? (h : Host) (path : String) : Option (List String) :=
  if h.files.isFolder (h.place path) then
    some ((h.files.children (h.place path)).mergeSort fun a b => decide (a ≤ b))
  else none

/-- Text with each way to end a line written as a line feed. -/
def unifyLines : List Char → List Char
  | '\r' :: '\n' :: rest => '\n' :: unifyLines rest
  | '\r' :: rest => '\n' :: unifyLines rest
  | c :: rest => c :: unifyLines rest
  | [] => []

/-- The place where the way of a path begins. -/
def start (h : Host) (path : String) : List String :=
  if path.toList.head? = some '/' then [] else Path.names h.directory

/-- The place that a path leads to when it is opened. No path holds the null character. -/
def walk? (h : Host) (path : String) : Option (List String) :=
  if path.toList.contains '\x00' then none
  else h.files.walk (h.start path) (path.toList.splitOn '/')

/-- What the file at a path holds when it is opened, its lines ending in line feeds. -/
def document? (h : Host) (path : String) : Option Document :=
  match (h.walk? path).bind h.files.content? with
  | some (.text s) => some (.text (String.ofList (unifyLines s.toList)))
  | other => other

/-- Whether a path leads to a file. -/
def leadsToFile (h : Host) (path : String) : Bool :=
  ((h.walk? path).bind h.files.content?).isSome

end Host

end FilterScript
