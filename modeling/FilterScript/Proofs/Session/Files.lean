import FilterScript.Proofs.Config.Validation
import FilterScript.Proofs.Session.Shares
import FilterScript.Proofs.Storage.ScriptFiles

/-!
# Files of scripts in a session

A session asks for the files of its scripts, and its owner may make the folders, look for entries
and clean up in between. What is written is told by the codes of the scripts at the times when their
files were asked for.

* **Environments** (`slash_not_mem_tempLabel`): the storage of an environment has a folder name as its label.
* **One move** (`holds_move`, `answer_of_askedBy`): what becomes of the storage, and which path is
  answered.
* **Runs** (`holds_moved_of_kept`, `exists_holds_moved`): what is in the storage after many moves.
* **Files** (`content?_moved`, `keepsFiles_of_build`): a file holds the code that it was asked for until it
  is removed.
-/

namespace FilterScript

/-! ## Environments -/

/-- The label of an accepted configuration is the name of a folder. -/
theorem Config.slash_not_mem_tempLabel {entries : List (Value × Value)} {config : Config}
    (accepted : ofEntries entries = .ok config) : '/' ∉ config.tempLabel.toList := by
  obtain ⟨-, rfl⟩ := ofEntries_eq_ok_iff.1 accepted
  have label : folderName? (.text (ofSettings entries).tempLabel) = some (ofSettings entries).tempLabel :=
    read?_value_ofSettings entries .tempLabel
  exact (folderName?_eq_some_iff.1 label).2.2

namespace Session

/-! ## Moves -/

/-- What is done to a session: operations, and what its owner does with the storage. Nothing is
written by hand. -/
inductive Move where
  /-- An operation, on the machine as it is then. -/
  | act (host : Host) (operation : Operation)
  /-- Makes the folders. -/
  | makeFolders
  /-- Looks for an entry. -/
  | look (sub : String)
  /-- Removes the folder of the process. -/
  | cleanUp

/-- The session after a move. -/
def move (s : Session) : Move → Session
  | .act host operation => (s.step host operation).1
  | .makeFolders =>
    match s.environment.storage.init with
    | .ok made => s.withStorage made
    | .error _ => s
  | .look sub =>
    match s.environment.storage.temp sub with
    | .ok (made, _) => s.withStorage made
    | .error _ => s
  | .cleanUp => s.withStorage s.environment.storage.cleanUp

/-- The session after moves. -/
def moved (s : Session) (moves : List Move) : Session :=
  moves.foldl move s

/-- The whole code of the script of a name. -/
def code? (s : Session) (id : String) : Option String :=
  (s.script? id).map fun script => script.script.fullCode (s.sharedOf script)

/-- If a move asks for the file of a script: the code of the script, and the answer. -/
def askedBy (s : Session) : Move → Option (String × Outcome Answer)
  | .act host (.filePath id) =>
    (s.code? id).map fun code => (code, (s.step host (.filePath id)).2)
  | _ => none

/-- The codes and answers of all moves that ask for the file of a script, one after the other. -/
def asked (s : Session) : List Move → List (String × Outcome Answer)
  | [] => []
  | move :: rest => (s.askedBy move).toList ++ (s.move move).asked rest

/-- The codes of the scripts whose files are asked for. -/
def codesAsked (s : Session) (moves : List Move) : List String :=
  (s.asked moves).map Prod.fst

section Runs

variable {s : Session}

/-- Moves one after another. -/
theorem moved_append (s : Session) (front back : List Move) :
    s.moved (front ++ back) = (s.moved front).moved back :=
  List.foldl_append

/-- What is asked for in two parts of a history. -/
theorem asked_append (s : Session) (front back : List Move) :
    s.asked (front ++ back) = s.asked front ++ (s.moved front).asked back := by
  induction front generalizing s with
  | nil => rfl
  | cons move rest ih => simp only [List.cons_append, asked, ih, List.append_assoc]; rfl

/-- What is asked for up to some move is asked for in the whole. -/
theorem asked_subset_asked {front moves : List Move} (part : front <+: moves) :
    s.asked front ⊆ s.asked moves := by
  obtain ⟨back, rfl⟩ := part
  rw [asked_append]
  exact List.subset_append_left _ _

/-- A move that asks for a file is on record in every history that it is part of. -/
theorem mem_asked_of_askedBy {front moves : List Move} {move : Move}
    {call : String × Outcome Answer} (upTo : front ++ [move] <+: moves)
    (asks : (s.moved front).askedBy move = some call) : call ∈ s.asked moves := by
  apply asked_subset_asked upTo
  rw [asked_append]
  refine List.mem_append_right _ (List.mem_append_left _ ?_)
  exact Option.mem_toList.2 asks

/-- The codes asked for in two parts of a history. -/
theorem codesAsked_append (s : Session) (front back : List Move) :
    s.codesAsked (front ++ back) = s.codesAsked front ++ (s.moved front).codesAsked back := by
  rw [codesAsked, asked_append, List.map_append]
  rfl

/-- The codes asked for, one move at a time. -/
theorem codesAsked_cons (s : Session) (move : Move) (rest : List Move) :
    s.codesAsked (move :: rest) =
      (s.askedBy move).toList.map Prod.fst ++ (s.move move).codesAsked rest := by
  rw [codesAsked, asked, List.map_append]
  rfl

end Runs

/-! ## One move -/

section Moves

variable {s : Session} {root : String} {codes : List String} {move : Move}

/-- Asking for the file of a script. -/
theorem exists_step_filePath (holds : s.environment.storage.Holds root codes) {id code : String}
    (there : s.code? id = some code) (host : Host) :
    ∃ next, s.step host (.filePath id) =
        (s.withStorage next, .ok (.file (Storage.scriptPath root code)
          ((Storage.fileOf? (codes ++ [code]) code).getD ""))) ∧
      next.Holds root (codes ++ [code]) := by
  obtain ⟨script, found, rfl⟩ := Option.map_eq_some_iff.1 there
  obtain ⟨next, written, after⟩ :=
    Storage.exists_filePath holds script.script (s.sharedOf script)
  refine ⟨next, ?_, after⟩
  have step : s.step host (.filePath id) = s.filePathOn script := withScript_of_script? found _
  rw [step, filePathOn, written, ← after.content?]

/-- Asking for the file of a script that is there asks for its code. -/
theorem askedBy_of_code? {id code : String} (there : s.code? id = some code) (host : Host) :
    s.askedBy (.act host (.filePath id)) = some (code, (s.step host (.filePath id)).2) := by
  rw [askedBy, there, Option.map_some]

/-- **One move**: the answer to a script that asks for its file. -/
theorem answer_of_askedBy (holds : s.environment.storage.Holds root codes)
    {call : String × Outcome Answer} (asks : s.askedBy move = some call) :
    call.2 = .ok (.file (Storage.scriptPath root call.1)
      ((Storage.fileOf? (codes ++ [call.1]) call.1).getD "")) := by
  unfold askedBy at asks
  split at asks
  · next host id =>
    obtain ⟨code, there, rfl⟩ := Option.map_eq_some_iff.1 asks
    obtain ⟨next, step, -⟩ := exists_step_filePath holds there host
    rw [step]
  · cases asks

/-- **One move**: unless it cleans up, what is in the storage stays, with the file that it asks for.
-/
theorem holds_move (holds : s.environment.storage.Holds root codes) (kept : move ≠ .cleanUp) :
    (s.move move).environment.storage.Holds root
      (codes ++ (s.askedBy move).toList.map Prod.fst) := by
  cases move with
  | act host operation =>
    by_cases asks : operation.asksForFile = true
    · cases operation with
      | filePath id =>
        cases there : s.code? id with
        | some code =>
          obtain ⟨next, step, after⟩ := exists_step_filePath holds there host
          rw [askedBy_of_code? there, move, step]
          exact after
        | none =>
          have absent : s.script? id = none := Option.map_eq_none_iff.1 there
          have same : (s.step host (.filePath id)).1 = s := by
            have step : s.step host (.filePath id) = s.withScript id _ := rfl
            rw [step, withScript, absent]
          rw [askedBy, there, move, same]
          exact (List.append_nil codes).symm ▸ holds
      | _ => cases asks
    · have same := (shares_step host s operation).storage (eq_false_of_ne_true asks)
      have none : s.askedBy (.act host operation) = none := by
        cases operation with
        | filePath id => exact absurd rfl asks
        | _ => rfl
      rw [none, move, same]
      exact (List.append_nil codes).symm ▸ holds
  | makeFolders =>
    obtain ⟨made, done, -, after⟩ := holds.init
    rw [move, done]
    exact (List.append_nil codes).symm ▸ after
  | look sub =>
    obtain ⟨made, done, -, after⟩ := holds.init
    rw [move, Storage.temp_of_init done]
    exact (List.append_nil codes).symm ▸ after
  | cleanUp => exact absurd rfl kept

end Moves

/-! ## Runs -/

section Runs

variable {s : Session} {root : String} {codes : List String} {moves : List Move}

/-- **Runs**: what is in the storage stays there as long as nothing is cleaned up. -/
theorem holds_moved_of_kept (holds : s.environment.storage.Holds root codes)
    (kept : .cleanUp ∉ moves) :
    (s.moved moves).environment.storage.Holds root (codes ++ s.codesAsked moves) := by
  induction moves generalizing s codes with
  | nil => exact (List.append_nil codes).symm ▸ holds
  | cons first rest ih =>
    obtain ⟨keptFirst, keptRest⟩ := List.ne_and_not_mem_of_not_mem_cons kept
    have after := holds_move holds keptFirst.symm
    rw [codesAsked_cons, ← List.append_assoc]
    exact ih after keptRest

/-- What is in the storage after a move was there before, or was asked for by it. -/
theorem exists_holds_move (plain : Path.IsPlain root.toList)
    (holds : s.environment.storage.Holds root codes) (move : Move) :
    ∃ next, next ⊆ codes ++ (s.askedBy move).toList.map Prod.fst ∧
      (s.move move).environment.storage.Holds root next := by
  by_cases cleans : move = .cleanUp
  · rw [cleans]
    exact ⟨[], List.nil_subset _, holds.cleanUp plain⟩
  · exact ⟨_, List.Subset.refl _, holds_move holds cleans⟩

/-- The induction's bookkeeping: codes known after one move, with those still to come, are among the
codes known before it with those of the whole. -/
theorem append_codesAsked_subset {next : List String} {move : Move}
    (some : next ⊆ codes ++ (s.askedBy move).toList.map Prod.fst) (rest : List Move) :
    next ++ (s.move move).codesAsked rest ⊆ codes ++ s.codesAsked (move :: rest) := by
  rw [codesAsked_cons, ← List.append_assoc]
  exact List.append_subset.2
    ⟨List.Subset.trans some (List.subset_append_left _ _), List.subset_append_right _ _⟩

/-- **Runs**: only what was asked for is in the storage. -/
theorem exists_holds_moved (plain : Path.IsPlain root.toList)
    (holds : s.environment.storage.Holds root codes) (moves : List Move) :
    ∃ left, left ⊆ codes ++ s.codesAsked moves ∧
      (s.moved moves).environment.storage.Holds root left := by
  induction moves generalizing s codes with
  | nil => exact ⟨codes, List.subset_append_left codes _, holds⟩
  | cons first rest ih =>
    obtain ⟨next, some, after⟩ := exists_holds_move plain holds first
    obtain ⟨left, part, later⟩ := ih after
    exact ⟨left, List.Subset.trans part (append_codesAsked_subset some rest), later⟩

/-- Each answer is the path for the code at the time. -/
theorem answer_of_mem_asked (plain : Path.IsPlain root.toList)
    (holds : s.environment.storage.Holds root codes)
    (apart : Digest.TellsApart (codes ++ s.codesAsked moves)) :
    ∀ call ∈ s.asked moves, call.2 = .ok (.file (Storage.scriptPath root call.1) call.1) := by
  induction moves generalizing s codes with
  | nil => exact nofun
  | cons first rest ih =>
    intro call inside
    rcases List.mem_append.1 inside with now | behind
    · have asks : s.askedBy first = some call := Option.mem_toList.1 now
      have apartNow : Digest.TellsApart (codes ++ [call.1]) := by
        rw [codesAsked_cons, asks, ← List.append_assoc] at apart
        exact apart.of_subset (List.subset_append_left _ _)
      have there : call.1 ∈ codes ++ [call.1] := List.mem_append_right codes List.mem_cons_self
      rw [answer_of_askedBy holds asks, Storage.fileOf?_of_mem apartNow there, Option.getD_some]
    · obtain ⟨next, some, after⟩ := exists_holds_move plain holds first
      exact ih after (apart.of_subset (append_codesAsked_subset some rest)) call behind

end Runs

/-! ## Files -/

section Files

variable {s : Session} {root code : String} {answer : Outcome Answer} {codes : List String}
  {move : Move} {later : List Move}

/-- A file holds the code that it was asked for as long as nothing is cleaned up. -/
theorem content?_moved_of_askedBy (holds : s.environment.storage.Holds root codes)
    (asks : s.askedBy move = some (code, answer)) (kept : .cleanUp ∉ later)
    (apart : Digest.TellsApart (codes ++ s.codesAsked (move :: later))) :
    (s.moved (move :: later)).environment.storage.content? (Storage.scriptPath root code) =
      some code := by
  have keptAll : .cleanUp ∉ move :: later := by
    refine List.not_mem_cons_of_ne_of_not_mem ?_ kept
    rintro rfl
    cases asks
  have asked : code ∈ s.codesAsked (move :: later) := by
    rw [codesAsked_cons, asks]
    exact List.mem_append_left _ List.mem_cons_self
  rw [(holds_moved_of_kept holds keptAll).content?]
  exact Storage.fileOf?_of_mem apart (List.mem_append_right codes asked)

/-- After cleaning up, no file is there until its code is asked for again. -/
theorem content?_moved_of_cleanUp (plain : Path.IsPlain root.toList)
    (holds : s.environment.storage.Holds root codes)
    (unasked : code ∉ (s.move .cleanUp).codesAsked later)
    (apart : Digest.TellsApart (code :: (s.move .cleanUp).codesAsked later)) :
    (s.moved (.cleanUp :: later)).environment.storage.content? (Storage.scriptPath root code) =
      none := by
  obtain ⟨left, part, after⟩ := exists_holds_moved plain (s := s.move .cleanUp)
    (holds.cleanUp plain) later
  have gone : code ∉ left := fun there => unasked (part there)
  have known : (s.moved (.cleanUp :: later)).environment.storage.content?
      (Storage.scriptPath root code) = Storage.fileOf? left code := after.content? code
  rw [known]
  exact Storage.fileOf?_of_not_mem
    (apart.of_subset (List.cons_subset_cons code part)) gone

/-- Whether the files of scripts are kept in a run of moves: one that is asked for holds the code of
its script until the storage is cleaned up, two are one exactly if their codes are, and after
cleaning up a file is gone until its code is asked for again. -/
def KeepsFiles (s : Session) (moves : List Move) : Prop :=
  (∀ front move code answer, front ++ [move] <+: moves →
    (s.moved front).askedBy move = some (code, answer) →
    ∃ path, answer = .ok (.file path code) ∧
      ∀ later, front ++ move :: later <+: moves → .cleanUp ∉ later →
        (s.moved (front ++ move :: later)).environment.storage.content? path = some code) ∧
  (∀ call ∈ s.asked moves, ∀ other ∈ s.asked moves, ∀ path content path' content',
    call.2 = .ok (.file path content) → other.2 = .ok (.file path' content') →
    (path = path' ↔ call.1 = other.1)) ∧
  (∀ front, ∀ call ∈ s.asked front, ∀ path content, call.2 = .ok (.file path content) →
    ∀ later, front ++ .cleanUp :: later <+: moves →
      call.1 ∉ (s.moved (front ++ [.cleanUp])).codesAsked later →
      (s.moved (front ++ .cleanUp :: later)).environment.storage.content? path = none)

/-- The files of scripts are kept from where the storage holds none. -/
theorem keepsFiles_of_holds (plain : Path.IsPlain root.toList)
    (holds : s.environment.storage.Holds root []) {moves : List Move}
    (apart : Digest.TellsApart (s.codesAsked moves)) : KeepsFiles s moves := by
  have answers : ∀ call ∈ s.asked moves, call.2 =
      .ok (.file (Storage.scriptPath root call.1) call.1) := answer_of_mem_asked plain holds apart
  -- what a run asks for up to some move, and from there on
  have apartUpTo : ∀ front back, front ++ back <+: moves →
      Digest.TellsApart (s.codesAsked front ++ (s.moved front).codesAsked back) := by
    intro front back upTo
    rw [← codesAsked_append]
    exact apart.of_subset (List.map_subset Prod.fst (asked_subset_asked upTo))
  refine ⟨?_, ?_, ?_⟩
  · intro front move code answer upToMove asks
    have inside := mem_asked_of_askedBy upToMove asks
    refine ⟨_, answers _ inside, fun later upTo kept => ?_⟩
    obtain ⟨left, part, before⟩ := exists_holds_moved plain holds front
    rw [moved_append]
    refine content?_moved_of_askedBy before asks kept ((apartUpTo front _ upTo).of_subset ?_)
    exact List.append_subset.2
      ⟨List.Subset.trans part (List.subset_append_left _ _), List.subset_append_right _ _⟩
  · intro call first other second path content path' content' answered answered'
    rw [answers call first] at answered
    rw [answers other second] at answered'
    obtain ⟨rfl, rfl⟩ := Answer.file.inj (Except.ok.inj answered)
    obtain ⟨rfl, rfl⟩ := Answer.file.inj (Except.ok.inj answered')
    rw [Storage.scriptPath_eq_iff]
    constructor
    · exact apart _ (List.mem_map_of_mem first) _ (List.mem_map_of_mem second)
    · exact congrArg Digest.md5Text
  · intro front call given path content answered later upTo unasked
    have upToFront : front <+: moves := (List.prefix_append front _).trans upTo
    rw [answers call (asked_subset_asked upToFront given)] at answered
    obtain ⟨rfl, rfl⟩ := Answer.file.inj (Except.ok.inj answered)
    obtain ⟨left, part, before⟩ := exists_holds_moved plain holds front
    rw [moved_append] at unasked ⊢
    refine content?_moved_of_cleanUp plain before unasked ((apartUpTo front _ upTo).of_subset ?_)
    refine List.cons_subset.2 ⟨?_, ?_⟩
    · exact List.mem_append_left _ (List.mem_map_of_mem given)
    · rw [codesAsked_cons, ← List.append_assoc]
      exact List.subset_append_right _ _

end Files

/-- **Files**: a storage in a directory of its own serves a session, and nothing is written into it
by hand. As long as digests tell the codes of the run apart, a script that asks for its file is
answered with a path where its whole code is then, and stays until the storage is cleaned up,
whatever becomes of the scripts and whoever asks meanwhile. Two answers are the same path exactly if
the codes were the same. After cleaning up, no file is there until its code is asked for again,
which writes it. -/
theorem content?_moved {s : Session} {base label : String} {processId : Nat}
    (resolved : Path.IsResolved base) (name : '/' ∉ label.toList)
    (fresh : s.environment.storage = .inDirectory base label processId) {moves : List Move}
    (apart : Digest.TellsApart (s.codesAsked moves)) :
    (∀ front move code answer, front ++ [move] <+: moves →
      (s.moved front).askedBy move = some (code, answer) →
      ∃ path, answer = .ok (.file path code) ∧
        ∀ later, front ++ move :: later <+: moves → .cleanUp ∉ later →
          (s.moved (front ++ move :: later)).environment.storage.content? path = some code) ∧
    (∀ call ∈ s.asked moves, ∀ other ∈ s.asked moves, ∀ path content path' content',
      call.2 = .ok (.file path content) → other.2 = .ok (.file path' content') →
      (path = path' ↔ call.1 = other.1)) ∧
    (∀ front, ∀ call ∈ s.asked front, ∀ path content, call.2 = .ok (.file path content) →
      ∀ later, front ++ .cleanUp :: later <+: moves →
        call.1 ∉ (s.moved (front ++ [.cleanUp])).codesAsked later →
        (s.moved (front ++ .cleanUp :: later)).environment.storage.content? path = none) :=
  keepsFiles_of_holds (Storage.isPlain_root_inDirectory resolved name processId)
    (fresh ▸ Storage.holds_inDirectory name base processId) apart

/-- **Files** of an environment that is built from an accepted configuration are kept. -/
theorem keepsFiles_of_build {host : Host} {entries : List (Value × Value)} {config : Config}
    {environment : Environment} (accepted : Config.ofEntries entries = .ok config)
    (built : Environment.build host config = .ok environment)
    {scripts : List (String × SessionScript)} {moves : List Move}
    (apart : Digest.TellsApart ((⟨environment, scripts⟩ : Session).codesAsked moves)) :
    KeepsFiles ⟨environment, scripts⟩ moves := by
  have name := Config.slash_not_mem_tempLabel accepted
  have fresh := Environment.storage_of_build built
  have resolved := Path.isResolved_resolve host.directory (Environment.tempDirOf config)
  have holds := Storage.holds_inDirectory name
    (Path.resolve host.directory (Environment.tempDirOf config)) host.processId
  have plain := Storage.isPlain_root_inDirectory resolved name host.processId
  rw [← fresh] at holds plain
  exact keepsFiles_of_holds plain holds apart

/-- Two scripts with one code, of which the first is edited after it asked for its file and asks
again: the file of the first code stays, is gone after cleaning up, and is there again when the
second script asks for it. -/
theorem content?_moved_shared_code :
    let host : Host := {}
    let s : Session := ⟨{ storage := .inDirectory "/tmp" "avsgen" 1 }, []⟩
    let made : List Move := [
      .act host (.newScript "a" "Version()"), .act host (.newLoneScript "b" "Version()")]
    let edits : List Move := [
      .act host (.addCode "a" "Sharpen(1)"), .look "scripts", .act host (.filePath "a")]
    let edited : List Move := made ++ .act host (.filePath "a") :: edits
    let cleaned : List Move := edited ++ [.cleanUp]
    let again : List Move := cleaned ++ [.act host (.filePath "b")]
    s.codesAsked again = ["Version()\n", "Version()\nSharpen(1)\n\n", "Version()\n"] ∧
      ∃ path,
        (s.moved edited).environment.storage.content? path = some "Version()\n" ∧
        (s.moved cleaned).environment.storage.content? path = none ∧
        (s.moved again).environment.storage.content? path = some "Version()\n" := by
  intro host s made edits edited cleaned again
  have codes : s.codesAsked again =
      ["Version()\n", "Version()\nSharpen(1)\n\n", "Version()\n"] := by decide +kernel
  have apart : Digest.TellsApart (s.codesAsked again) := by
    rw [codes]
    unfold Digest.TellsApart
    decide +kernel
  have resolved : Path.IsResolved "/tmp" := by
    have same : Path.resolve "/" "tmp" = "/tmp" := by decide
    exact same ▸ Path.isResolved_resolve "/" "tmp"
  obtain ⟨holds, same, gone⟩ := content?_moved resolved (by decide) rfl apart
  have codeFirst : (s.moved made).code? "a" = some "Version()\n" := by decide +kernel
  have codeLast : (s.moved cleaned).code? "b" = some "Version()\n" := by decide +kernel
  obtain ⟨answerFirst, first⟩ : ∃ answer, (s.moved made).askedBy (.act host (.filePath "a")) =
      some ("Version()\n", answer) := ⟨_, askedBy_of_code? codeFirst host⟩
  obtain ⟨answerLast, last⟩ : ∃ answer, (s.moved cleaned).askedBy (.act host (.filePath "b")) =
      some ("Version()\n", answer) := ⟨_, askedBy_of_code? codeLast host⟩
  have upToFirst : made ++ [.act host (.filePath "a")] <+: edited := ⟨_, rfl⟩
  have upToEdited : edited <+: again :=
    (List.prefix_append edited _).trans (List.prefix_append cleaned _)
  obtain ⟨path, answered, stays⟩ := holds made _ _ _ (upToFirst.trans upToEdited) first
  obtain ⟨other, answeredLast, staysLast⟩ := holds cleaned _ _ _ List.prefix_rfl last
  have asked := mem_asked_of_askedBy upToFirst first
  have askedLast := mem_asked_of_askedBy List.prefix_rfl last
  have one := (same _ (asked_subset_asked upToEdited asked) _ askedLast path _ other _ answered
    answeredLast).2 rfl
  -- the moves are compared, and not the states that they lead to
  have isEdited : edited = made ++ .act host (.filePath "a") :: edits := rfl
  have isCleaned : cleaned = edited ++ [.cleanUp] := rfl
  have isAgain : again = cleaned ++ [.act host (.filePath "b")] := rfl
  refine ⟨codes, path, ?_, ?_, ?_⟩
  · rw [isEdited]
    exact stays edits upToEdited (by simp [edits])
  · rw [isCleaned]
    exact gone edited _ asked path _ answered [] (List.prefix_append cleaned _) List.not_mem_nil
  · rw [isAgain, one]
    exact staysLast [] List.prefix_rfl List.not_mem_nil

end Session

end FilterScript
