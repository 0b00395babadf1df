import FilterScript.Proofs.Session.Steps

/-!
# Operations that fail

Registering a filter, loading a file, appending code and calling a filter are done as a whole or not
at all: an operation of these kinds that fails leaves the whole session as it was, the shared
references and every script included. Loading a directory is not among them: the files in front of
the one that it fails at stay referenced.

* **Calls** (`callOn_of_invoke_eq_error`): a script that a filter fails on is put back as it was.
* **All operations** (`step_of_failed`): so it is with every operation of these kinds.
-/

namespace FilterScript

namespace Session

/-- Whether an operation is done as a whole or not at all. -/
def Operation.IsAtomic : Operation → Prop
  | .newPlugin .. => True
  | .addPlugin .. => True
  | .loadForAll .. => True
  | .load .. => True
  | .addCode .. => True
  | .call .. => True
  | _ => False

/-- Whether an operation failed: with an error, or since a name has no meaning. -/
def HasFailed : Outcome Answer → Prop
  | .error _ => True
  | .ok (.noAttribute _) => True
  | .ok _ => False

section Failed

variable {host : Host} {s : Session} {id : String} {script : SessionScript}

/-- A registration that fails leaves the session as it was. -/
theorem fst_registered_of_failed {outcome : Outcome (Registry × Plugin)}
    (failed : HasFailed (s.registered outcome).2) : (s.registered outcome).1 = s := by
  cases outcome with
  | error e => rfl
  | ok result => cases failed

/-- A shared load that fails leaves the session as it was. -/
theorem fst_loadShared_of_failed {path : String} {ignore : Bool}
    (failed : HasFailed (s.loadShared host path ignore).2) :
    (s.loadShared host path ignore).1 = s := by
  unfold loadShared at failed ⊢
  split
  · rfl
  · next loaded =>
    rw [loaded] at failed
    cases failed

/-- A load on a script that fails leaves the session as it was. -/
theorem fst_loadOn_of_failed {path : String} {ignore : Bool}
    (failed : HasFailed (s.loadOn host id script path ignore).2) :
    (s.loadOn host id script path ignore).1 = s := by
  unfold loadOn at failed ⊢
  split
  · rfl
  · next loaded =>
    rw [loaded] at failed
    cases failed

/-- **Calls**: a script that a filter fails on is put back as it was. -/
theorem callOn_of_invoke_eq_error {name : String} {plugin : Plugin} {values : List Value}
    {changed : Script} {e : Failure} (apart : s.ids.Nodup) (there : s.script? id = some script)
    (means : Script.meaning (s.registryOf script) name = .plugin plugin)
    (failed : Script.invoke host plugin values script.script = (changed, .error e)) :
    s.callOn host id script name values = (s, .error e) := by
  have same : { script with script := changed } = script :=
    congrArg (fun changed => { script with script := changed }) (Script.invoke_eq_error failed)
  rw [callOn_of_plugin means, failed, same, putScript_self apart there]
  rfl

/-- A call whose failure takes nothing with it leaves the session as it was. -/
theorem fst_callOn_of_failed {name : String} {values : List Value} (apart : s.ids.Nodup)
    (there : s.script? id = some script)
    (failed : HasFailed (s.callOn host id script name values).2) :
    (s.callOn host id script name values).1 = s := by
  by_cases h : ∃ plugin, Script.meaning (s.registryOf script) name = .plugin plugin
  · obtain ⟨plugin, means⟩ := h
    cases invoked : Script.invoke host plugin values script.script with
    | mk changed outcome =>
      cases outcome with
      | error e => rw [callOn_of_invoke_eq_error apart there means invoked]
      | ok done =>
        rw [callOn_of_plugin means, invoked] at failed
        cases failed
  · exact fst_callOn_of_not_plugin (not_exists.1 h) values

/-- What holds of an operation on the script of a name holds where there is none. -/
theorem fst_withScript_of_failed {operation : SessionScript → Session × Outcome Answer}
    (failed : HasFailed (s.withScript id operation).2)
    (h : ∀ script, s.script? id = some script → HasFailed (operation script).2 →
      (operation script).1 = s) : (s.withScript id operation).1 = s := by
  unfold withScript at failed ⊢
  split
  · next script there =>
    rw [there] at failed
    exact h script there failed
  · rfl

/-- An atomic operation that fails changes nothing. -/
theorem fst_step_of_failed {operation : Operation} (apart : s.ids.Nodup)
    (atomic : operation.IsAtomic) (failed : HasFailed (s.step host operation).2) :
    (s.step host operation).1 = s := by
  cases operation with
  | newPlugin name params types requires category => exact fst_registered_of_failed failed
  | addPlugin name code requires category => exact fst_registered_of_failed failed
  | loadForAll path ignore => exact fst_loadShared_of_failed failed
  | call id name values =>
    refine fst_withScript_of_failed failed fun script there failed => ?_
    exact fst_callOn_of_failed apart there failed
  | addCode id text => exact fst_withScript_of_failed failed fun script _ failed => nomatch failed
  | load id path ignore =>
    exact fst_withScript_of_failed failed fun script _ failed => fst_loadOn_of_failed failed
  | _ => cases atomic

end Failed

/-- **All operations**: in every state that an environment and its scripts can get into, an atomic
operation that fails changes nothing. This is so for a call whose line cannot be written, and for
one that requires a file which cannot be referenced, whatever was referenced for it before. -/
theorem step_of_failed (host : Host) {s : Session} (reached : s.IsReachable) :
    (∀ operation : Operation, operation.IsAtomic → HasFailed (s.step host operation).2 →
      (s.step host operation).1 = s) ∧
    (∀ id script name plugin values, s.script? id = some script →
      Script.meaning (s.registryOf script) name = .plugin plugin →
      (∀ e, plugin.code values = .error e →
        s.step host (.call id name values) = (s, .error e)) ∧
      (∀ line front file back gathered path e, plugin.code values = .ok line →
        plugin.requires = front ++ file :: back →
        Script.requireAll host front [] = (gathered, .ok ()) →
        file.toText? = some path → References.load host path false gathered = .error e →
        s.step host (.call id name values) = (s, .error e))) := by
  have apart := reached.nodup_ids
  refine ⟨fun _ atomic failed => fst_step_of_failed apart atomic failed, ?_⟩
  intro id script name plugin values there means
  have called : s.step host (.call id name values) = s.callOn host id script name values :=
    withScript_of_script? there _
  rw [called]
  refine ⟨fun e failed => ?_, fun line front file back gathered path e written files before named
    failed => ?_⟩
  · exact callOn_of_invoke_eq_error apart there means (Script.invoke_of_code_eq_error failed _)
  · have required : Script.requireAll host plugin.requires [] = (gathered, .error e) := by
      rw [files, Script.requireAll_append before,
        Script.requireAll_cons_of_load_eq_error named failed]
    exact callOn_of_invoke_eq_error apart there means
      (Script.invoke_of_requireAll_eq_error written required _)

/-- A filter that requires a file and then one that is missing: the call fails there, and the first
file is no reference of the script. -/
theorem step_of_failed_missing_file :
    let host : Host := { files := ⟨[(["a.avsi"], .file (.text ""))]⟩ }
    let storage : Storage := .inDirectory "/tmp" "avsgen" 1
    let s := after ⟨{ storage := storage }, []⟩ [
      (host, .addPlugin "Deband" (fun _ => .ok (some "Deband()"))
        (.list [.text "a.avsi", .text "b.dll"]) none),
      (host, .newScript "s" "Version()")]
    s.script? "s" = some ⟨⟨"Version()", []⟩, false⟩ ∧
      Script.requireAll host [.text "a.avsi"] [] = ([("/a.avsi", .script)], .ok ()) ∧
      s.step host (.call "s" "deband" []) = (s, .error (.error (.notAFile "/b.dll"))) := by
  intro host storage s
  have reached : s.IsReachable := ⟨_, _, rfl⟩
  have there : s.script? "s" = some ⟨⟨"Version()", []⟩, false⟩ := rfl
  have found : ReferenceKind.ofPath? (host.resolve "a.avsi") = some .script := by decide
  have gathered : Script.requireAll host [.text "a.avsi"] [] = _ :=
    Script.requireAll_singleton rfl (by decide) (by decide) found []
  have missing : References.load host "b.dll" false [(host.resolve "a.avsi", .script)] = _ :=
    References.load_of_not_isFile (by decide) (by decide) _
  have failed := ((step_of_failed host reached).2 "s" _ "deband" _ [] there rfl).2 _
    [.text "a.avsi"] (.text "b.dll") [] _ "b.dll" _ rfl rfl gathered rfl missing
  have first : host.resolve "a.avsi" = "/a.avsi" := by decide
  have second : host.resolve "b.dll" = "/b.dll" := by decide
  rw [first] at gathered
  rw [second] at failed
  exact ⟨there, gathered, failed⟩

end Session

end FilterScript
