import FilterScript.Proofs.Script.Changes
import FilterScript.Session
import Mathlib.Data.List.Nodup

/-!
# Steps of a session

An operation changes the script that it is on, or what the scripts share, or nothing. The names of
the scripts stay apart, so a script put back as it was leaves the session as it was.

* **Names** (`IsReachable.nodup_ids`): in no state that is reached two scripts have one name.
* **Other scripts** (`changesOnly_step`): an operation changes at most the script that it is on.
* **Runs** (`after_append`): the state after operations, on machines that may differ.
-/

namespace FilterScript

namespace Session

/-! ## Names -/

/-- The names of the scripts. -/
def ids (s : Session) : List String :=
  s.scripts.map Prod.fst

section Names

variable {s : Session} {id : String}

/-- The identifiers are those that a script is found under. -/
theorem mem_ids_iff : id ∈ s.ids ↔ (s.script? id).isSome := by
  rw [ids, script?, List.lookup_isSome_iff, List.mem_map]
  simp only [beq_iff_eq, @eq_comm String id]

/-- Putting a script back adds its identifier only if it was not there. -/
theorem ids_putScript (s : Session) (id : String) (script : SessionScript) :
    (s.putScript id script).ids = if id ∈ s.ids then s.ids else s.ids ++ [id] := by
  unfold putScript
  by_cases there : id ∈ s.ids
  · rw [if_pos (mem_ids_iff.1 there), if_pos there, ids, ids, List.map_map]
    apply List.map_congr_left
    intro entry _
    by_cases same : entry.1 = id
    · simp [same]
    · simp [same]
  · rw [if_neg (mt mem_ids_iff.2 there), if_neg there, ids, List.map_append]
    rfl

/-- Putting a script back gives no identifier twice. -/
theorem nodup_ids_putScript (apart : s.ids.Nodup) (script : SessionScript) :
    (s.putScript id script).ids.Nodup := by
  rw [ids_putScript]
  split
  · exact apart
  · next missing =>
    rw [List.nodup_append]
    refine ⟨apart, List.nodup_singleton id, fun i old j new => ?_⟩
    rw [List.mem_singleton.1 new]
    exact fun same => missing (same ▸ old)

/-- A script put back as it was leaves the session as it was. -/
theorem putScript_self {script : SessionScript} (apart : s.ids.Nodup)
    (there : s.script? id = some script) : s.putScript id script = s := by
  obtain ⟨front, back, whole, -⟩ := List.lookup_eq_some_iff.1 there
  -- the names are apart, so an entry under the name can only be this one
  have others : ∀ entry ∈ s.scripts, (if entry.1 = id then (entry.1, script) else entry) = entry := by
    intro entry inside
    split
    · next same =>
      rw [ids, whole, List.map_append, List.map_cons, List.nodup_middle, List.nodup_cons,
        List.mem_append, not_or] at apart
      obtain ⟨⟨notFront, notBack⟩, -⟩ := apart
      rw [whole, List.mem_append, List.mem_cons] at inside
      rcases inside with before | rfl | behind
      · exact absurd (List.mem_map.2 ⟨entry, before, same⟩) notFront
      · rfl
      · exact absurd (List.mem_map.2 ⟨entry, behind, same⟩) notBack
    · rfl
  have known : (s.script? id).isSome := by
    rw [there]
    rfl
  rw [putScript, if_pos known]
  have same := List.map_congr_left others
  rw [List.map_id'] at same
  exact congrArg (fun scripts => { s with scripts := scripts }) same

end Names

/-! ## The script of an operation -/

/-- The name of the script that an operation may change. -/
def Operation.target? : Operation → Option String
  | .newScript id _ => some id
  | .newLoneScript id _ => some id
  | .call id _ _ => some id
  | .addCode id _ => some id
  | .load id _ _ => some id
  | .autoload id _ => some id
  | _ => none

/-- Whether an operation makes a script of a name. -/
def Operation.Makes (id : String) : Operation → Prop
  | .newScript made _ => made = id
  | .newLoneScript made _ => made = id
  | _ => False

/-- Whether two states have the same scripts, but for one that may be new or changed. -/
def ChangesOnly (target : Option String) (before after : Session) : Prop :=
  after.scripts = before.scripts ∨
    ∃ id ∈ target, ∃ changed, after = before.putScript id changed

section Step

variable {host : Host} {s : Session} {id : String} {target : Option String}

/-- A change that leaves the scripts alone. -/
theorem changesOnly_of_scripts_eq {before after : Session} (h : after.scripts = before.scripts) :
    ChangesOnly target before after :=
  .inl h

/-- Putting a script back changes that script only. -/
theorem changesOnly_putScript (s : Session) (id : String) (script : SessionScript) :
    ChangesOnly (some id) s (s.putScript id script) :=
  .inr ⟨id, rfl, script, rfl⟩

/-- An operation on a script that is there is run on it. -/
theorem withScript_of_script? {script : SessionScript} (there : s.script? id = some script)
    (operation : SessionScript → Session × Outcome Answer) :
    s.withScript id operation = operation script := by
  rw [withScript, there]

/-- An operation on a script changes only its target if each run of it does. -/
theorem changesOnly_withScript {operation : SessionScript → Session × Outcome Answer}
    (h : ∀ script, ChangesOnly target s (operation script).1) :
    ChangesOnly target s (s.withScript id operation).1 := by
  unfold withScript
  split
  · exact h _
  · exact changesOnly_of_scripts_eq rfl

/-- A registration changes no script. -/
theorem changesOnly_registered (outcome : Outcome (Registry × Plugin)) :
    ChangesOnly target s (s.registered outcome).1 := by
  cases outcome <;> exact changesOnly_of_scripts_eq rfl

/-- Asking for a file changes no script. -/
theorem changesOnly_filePathOn (script : SessionScript) :
    ChangesOnly target s (s.filePathOn script).1 := by
  unfold filePathOn
  split <;> exact changesOnly_of_scripts_eq rfl

/-- A shared load changes no script. -/
theorem changesOnly_loadShared (path : String) (ignore : Bool) :
    ChangesOnly target s (s.loadShared host path ignore).1 := by
  unfold loadShared
  split <;> exact changesOnly_of_scripts_eq rfl

/-- A shared autoload changes no script. -/
theorem changesOnly_autoloadShared (path : String) :
    ChangesOnly target s (s.autoloadShared host path).1 := by
  unfold autoloadShared
  split <;> exact changesOnly_of_scripts_eq rfl

/-- What the call of a filter does to the session, whether it succeeds or not. -/
theorem callOn_of_plugin {script : SessionScript} {name : String} {plugin : Plugin}
    (h : Script.meaning (s.registryOf script) name = .plugin plugin) (values : List Value) :
    s.callOn host id script name values =
      (s.putScript id { script with script := (Script.invoke host plugin values script.script).1 },
        (Script.invoke host plugin values script.script).2.map fun _ => .called plugin.name) := by
  simp only [callOn, h]
  cases (Script.invoke host plugin values script.script).2 <;> rfl

/-- A name that means no filter cannot be called. -/
theorem fst_callOn_of_not_plugin {script : SessionScript} {name : String}
    (h : ∀ plugin, Script.meaning (s.registryOf script) name ≠ .plugin plugin)
    (values : List Value) : (s.callOn host id script name values).1 = s := by
  unfold callOn
  split
  · rfl
  · rfl
  · rfl
  · next plugin means => exact absurd means (h plugin)

/-- A call changes its own script only. -/
theorem changesOnly_callOn (script : SessionScript) (name : String) (values : List Value) :
    ChangesOnly (some id) s (s.callOn host id script name values).1 := by
  by_cases h : ∃ plugin, Script.meaning (s.registryOf script) name = .plugin plugin
  · obtain ⟨plugin, means⟩ := h
    rw [callOn_of_plugin means]
    exact changesOnly_putScript s id _
  · rw [fst_callOn_of_not_plugin (not_exists.1 h)]
    exact changesOnly_of_scripts_eq rfl

/-- A load on a script changes that script only. -/
theorem changesOnly_loadOn (script : SessionScript) (path : String) (ignore : Bool) :
    ChangesOnly (some id) s (s.loadOn host id script path ignore).1 := by
  unfold loadOn
  split
  · exact changesOnly_of_scripts_eq rfl
  · exact changesOnly_putScript s id _

/-- The session that an autoload on a script leaves. -/
theorem fst_autoloadOn (host : Host) (s : Session) (id : String) (script : SessionScript)
    (path : String) :
    (s.autoloadOn host id script path).1 = s.putScript id { script with script :=
      { script.script with
        references := (References.autoload host path script.script.references).1 } } := by
  unfold autoloadOn
  dsimp only
  split <;> rfl

/-- **Other scripts**: an operation changes at most the script that it is on. -/
theorem changesOnly_step (host : Host) (s : Session) (operation : Operation) :
    ChangesOnly operation.target? s (s.step host operation).1 := by
  cases operation with
  | newScript id code => exact changesOnly_putScript s id _
  | newLoneScript id code => exact changesOnly_putScript s id _
  | newPlugin name params types requires category => exact changesOnly_registered _
  | addPlugin name code requires category => exact changesOnly_registered _
  | loadForAll path ignore => exact changesOnly_loadShared path ignore
  | autoloadForAll path => exact changesOnly_autoloadShared path
  | call id name values => exact changesOnly_withScript fun _ => changesOnly_callOn _ name values
  | addCode id text => exact changesOnly_withScript fun _ => changesOnly_putScript s id _
  | load id path ignore => exact changesOnly_withScript fun _ => changesOnly_loadOn _ path ignore
  | autoload id path =>
    refine changesOnly_withScript fun script => ?_
    rw [fst_autoloadOn]
    exact changesOnly_putScript s id _
  | references id => exact changesOnly_withScript fun _ => changesOnly_of_scripts_eq rfl
  | fullCode id => exact changesOnly_withScript fun _ => changesOnly_of_scripts_eq rfl
  | digest id => exact changesOnly_withScript fun _ => changesOnly_of_scripts_eq rfl
  | shown id => exact changesOnly_withScript fun _ => changesOnly_of_scripts_eq rfl
  | filePath id => exact changesOnly_withScript fun script => changesOnly_filePathOn script

/-- A step leaves every script alone but its target. -/
theorem script?_step_of_ne {operation : Operation} (h : operation.target? ≠ some id) :
    (s.step host operation).1.script? id = s.script? id := by
  obtain same | ⟨other, target, changed, step⟩ := changesOnly_step host s operation
  · exact congrArg (List.lookup id) same
  · have differ : id ≠ other := fun e => h (e ▸ target)
    rw [step, script?_putScript_of_ne s changed differ]

/-- **Names**: one step. -/
theorem nodup_ids_step (apart : s.ids.Nodup) (operation : Operation) :
    (s.step host operation).1.ids.Nodup := by
  obtain same | ⟨id, -, changed, step⟩ := changesOnly_step host s operation
  · rw [ids, same]
    exact apart
  · rw [step]
    exact nodup_ids_putScript apart changed

end Step

/-! ## Runs -/

/-- The state after operations, each of them on the machine as it is then. -/
def after (s : Session) : List (Host × Operation) → Session
  | [] => s
  | (host, operation) :: rest => after (s.step host operation).1 rest

/-- A run of two lists of operations is the one run after the other. -/
theorem after_append (s : Session) (front back : List (Host × Operation)) :
    s.after (front ++ back) = (s.after front).after back := by
  induction front generalizing s with
  | nil => rfl
  | cons head rest ih => exact ih (s.step head.1 head.2).1

/-- **Names**: all steps. -/
theorem nodup_ids_after {s : Session} (apart : s.ids.Nodup)
    (operations : List (Host × Operation)) : (s.after operations).ids.Nodup := by
  induction operations generalizing s with
  | nil => exact apart
  | cons head rest ih => exact ih (nodup_ids_step apart head.2)

/-- Whether a state is one that an environment and its scripts can get into. -/
def IsReachable (s : Session) : Prop :=
  ∃ environment operations, s = after ⟨environment, []⟩ operations

/-- No reachable session has two scripts under one identifier. -/
theorem IsReachable.nodup_ids {s : Session} (h : s.IsReachable) : s.ids.Nodup := by
  obtain ⟨environment, operations, rfl⟩ := h
  exact nodup_ids_after (s := ⟨environment, []⟩) List.nodup_nil operations

end Session

end FilterScript
