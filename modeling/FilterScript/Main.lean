import FilterScript.CommandLine.Sources

/-!
# The program

The machine as the library sees it is gathered from the real one: round by round, what the command
line looks at as far as it is known is read and added. The run itself is pure.
-/

namespace FilterScript.Program

open CommandLine

/-- The files with a file where the segments of a path lead, and with the folders on the way. -/
def addAlong (document : Document) : List String → List (List Char) → FileTree Document →
    FileTree Document
  | place, [], files => files.addFile place document
  | place, segment :: rest, files =>
    if segment = [] ∨ segment = ['.'] then addAlong document place rest files
    else if segment = ['.', '.'] then addAlong document place.dropLast rest files
    else
      let next := place ++ [String.ofList segment]
      addAlong document next rest (if rest.isEmpty then files else files.addFolder next)

/-- What a file that is there holds. -/
def readDocument (path : String) : IO Document :=
  try
    let bytes ← IO.FS.readBinFile path
    pure ((String.fromUTF8? bytes).elim .undecodable .text)
  catch _ => pure .locked

/-- The files with what stands at one place of the machine. What is not there is left out. -/
def gather (host : Host) (files : FileTree Document) (source : Source) :
    IO (FileTree Document) :=
  try
    match source with
    | .document path => do
      let there ← IO.FS.realPath path
      if ← there.isDir then pure files
      else do
        let document ← readDocument path
        pure (addAlong document (host.start path) (path.toList.splitOn '/') files)
    | .presence path => do
      let path := host.resolve path
      let there ← IO.FS.realPath path
      if ← there.isDir then pure files
      else pure (files.addFile (Path.names path) (.text ""))
    | .directory path => do
      let path := host.resolve path
      let there ← IO.FS.realPath path
      let entries ← there.readDir
      let names := Path.names path
      entries.foldlM (fun files entry => do
        if ← entry.path.isDir then pure (files.addFolder (names ++ [entry.fileName]))
        else pure (files.addFile (names ++ [entry.fileName]) (.text "")))
        (files.addFolder names)
  catch _ => pure files

/-- The machine with what the command line looks at, gathered in at most so many rounds. -/
def gatherAll (words : List String) : Nat → List Source → Host → IO Host
  | 0, _, host => pure host
  | rounds + 1, known, host => do
    let found := (sources host words).filter (!known.contains ·)
    if found.isEmpty then pure host
    else do
      let files ← found.foldlM (gather host) host.files
      gatherAll words rounds (found ++ known) { host with files := files }

/-- The name of the variable that names the configuration. -/
def configVariableName : String := "AVSGEN_CONFIG"

/-- Runs the words of a command line and gives the exit code. -/
def run (words : List String) : IO UInt32 := do
  let directory ← IO.currentDir
  let configVariable ← IO.getEnv configVariableName
  let host ← gatherAll words 4 []
    { directory := directory.toString, configVariable := configVariable }
  match CommandLine.run host words with
  | .ok result => do
    IO.print result.out
    IO.eprint result.err
    pure (UInt32.ofNat result.exit)
  | .error _ => do
    IO.eprintln "the input cannot be used"
    pure 1

end FilterScript.Program

/-- The program. -/
def main (words : List String) : IO UInt32 :=
  FilterScript.Program.run words
