import FilterScript.Proofs.Registry.Runs
import FilterScript.Proofs.Script.Changes
import FilterScript.Proofs.Session.Steps
import FilterScript.Proofs.Text.Casing

/-!
# Names on scripts

A name on a script may be that of something the script does itself, and filters are looked up in any
case. What scripts do themselves is reserved, also with underscores put in or left out, so the two never
meet.

* **Filters** (`meaning_of_lookup`): a name that is looked up and found means the filter.
* **Calls** (`meaning_after`): a registered filter is reached under its name in any case, and a call
  writes the line of that filter.
-/

namespace FilterScript

namespace Script

/-- What a script answers to by itself is reserved, or has an underscore in front. -/
theorem mem_reservedNames_of_mem_members {name : String} (own : name ∈ members)
    (visible : name.toList.head? ≠ some '_') : name ∈ Registry.reservedNames := by
  have all : ∀ name ∈ members,
      name.toList.head? = some '_' ∨ name ∈ Registry.reservedNames := by
    decide
  exact (all name own).resolve_left visible

section Lookup

variable {r : Registry} {name : String} {plugin : Plugin}

/-- A name under which a filter is found is not one that a script answers to by itself. -/
theorem not_mem_members_of_lookup (sound : r.IsSound)
    (reserved : r.reserved = Registry.reservedNames.map normalizedName)
    (found : r.lookup name = some plugin) (visible : name.toList.head? ≠ some '_') :
    name ∉ members := by
  intro own
  have inside := Registry.mem_of_lookup found
  have same := sound.keyed _ inside
  have taken : r.isReserved plugin.name = true := by
    rw [Registry.isReserved_withReserved_iff reserved]
    refine ⟨name, mem_reservedNames_of_mem_members own visible, ?_⟩
    exact (Registry.normalizedName_congr same).symm
  have free := sound.free _ inside
  rw [taken] at free
  cases free

/-- **Filters**: a name without an underscore in front means the filter that is found under it. -/
theorem meaning_of_lookup (sound : r.IsSound)
    (reserved : r.reserved = Registry.reservedNames.map normalizedName)
    (found : r.lookup name = some plugin) (visible : name.toList.head? ≠ some '_') :
    meaning r name = .plugin plugin := by
  have other := not_mem_members_of_lookup sound reserved found visible
  rw [← List.contains_iff_mem, Bool.not_eq_true] at other
  simp only [meaning, other, visible, found, Bool.false_eq_true, if_false]

end Lookup

end Script

namespace Session

/-- **Calls**: however a registry came about, each filter that does not have an underscore in front
of its name is reached under that name in any case, and none of what the script does itself is in
its way. A call under such a name appends the line of the filter, or fails as the filter does. -/
theorem meaning_after {requests : List Registry.Request} {key name : String} {plugin : Plugin}
    (registered : (key, plugin) ∈ (Registry.empty.after requests).plugins)
    (visible : plugin.name.toList.head? ≠ some '_') (spelled : Text.small name = key) :
    name ∉ Script.members ∧
    Script.meaning (Registry.empty.after requests) name = .plugin plugin ∧
    ∀ (host : Host) (s : Session) (id : String) (script : SessionScript) (values : List Value),
      s.registryOf script = Registry.empty.after requests → s.script? id = some script →
      (∀ line required, plugin.code values = .ok line →
        Script.requireAll host plugin.requires [] = (required, .ok ()) →
        ∃ changed, s.step host (.call id name values) =
            (s.putScript id ⟨changed, script.alone⟩, .ok (.called plugin.name)) ∧
          changed.rawCode = line.toList.foldl Script.appendLines script.script.rawCode) ∧
      ∀ e, plugin.code values = .error e → (s.step host (.call id name values)).2 = .error e := by
  have sound : (Registry.empty.after requests).IsSound :=
    Registry.isSound_after Registry.reservedNames requests
  have reserved := (Registry.growsBy_after Registry.empty requests).reserved_eq
  have found := sound.lookup_of_mem registered spelled
  have shown : name.toList.head? ≠ some '_' := by
    intro hidden
    have same := sound.keyed _ registered
    apply visible
    rw [← Text.head?_small_eq_underscore_iff, ← same, ← spelled]
    exact Text.head?_small_eq_underscore_iff.2 hidden
  have means := Script.meaning_of_lookup sound reserved found shown
  refine ⟨Script.not_mem_members_of_lookup sound reserved found shown, means, ?_⟩
  intro host s id script values same there
  rw [← same] at means
  have call : s.step host (.call id name values) = s.callOn host id script name values :=
    withScript_of_script? there _
  rw [call, callOn_of_plugin means]
  refine ⟨?_, ?_⟩
  · intro line required written gathered
    cases invoked : Script.invoke host plugin values script.script with
    | mk changed outcome =>
      have succeeds : outcome = .ok () := by
        have whole := congrArg Prod.snd invoked
        simp only [Script.invoke, written, gathered] at whole
        cases line <;> exact whole.symm
      subst succeeds
      obtain ⟨line', required', written', gathered', code, -⟩ := Script.invoke_eq_ok invoked
      rw [written, Except.ok.injEq] at written'
      subst written'
      exact ⟨changed, rfl, code⟩
  · intro e fails
    rw [Script.invoke_of_code_eq_error fails]
    rfl

/-- A filter whose name begins like one of the things that scripts do themselves, under other
letters. -/
theorem meaning_after_other_letters :
    let code : List Value → Outcome (Option String) := fun _ => .ok (some "Codec()")
    let plugin : Plugin := { name := "Codec", code := code, aliases := spellings "Codec" }
    let requests : List Registry.Request := [.register "Codec" code none (.list []) none]
    let environment : Environment :=
      { registry := Registry.empty.after requests, storage := .inDirectory "/tmp" "avsgen" 1 }
    let s : Session := ⟨environment, [("s", ⟨⟨"Version()", []⟩, false⟩)]⟩
    ("codec", plugin) ∈ (Registry.empty.after requests).plugins ∧
      Script.meaning (Registry.empty.after requests) "cODEC" = .plugin plugin ∧
      ∃ changed, s.step {} (.call "s" "cODEC" []) =
          (s.putScript "s" ⟨changed, false⟩, .ok (.called "Codec")) ∧
        changed.rawCode = "Version()\nCodec()\n" := by
  intro code plugin requests environment s
  have accepted : Registry.empty.refusal? "Codec" = none :=
    Registry.refusal?_eq_none_iff.2 ⟨by decide, rfl⟩
  have first : Registry.empty.register "Codec" code none (.list []) none =
      .ok (Registry.empty.insert plugin, plugin) :=
    Registry.register_eq_ok accepted rfl code none none
  have small : Text.small "Codec" = "codec" := by decide
  have registered : ("codec", plugin) ∈ (Registry.empty.after requests).plugins := by
    change _ ∈ (Registry.empty.kept (Registry.empty.register "Codec" code none (.list []) none)).plugins
    rw [first, ← small]
    exact List.mem_singleton_self _
  have visible : plugin.name.toList.head? ≠ some '_' := by decide
  have spelled : Text.small "cODEC" = "codec" := by decide
  obtain ⟨-, means, calls⟩ := meaning_after registered visible spelled
  obtain ⟨lines, -⟩ := calls {} s "s" ⟨⟨"Version()", []⟩, false⟩ [] rfl rfl
  obtain ⟨changed, step, whole⟩ := lines (some "Codec()") [] rfl rfl
  exact ⟨registered, means, changed, step, whole.trans (by decide)⟩

end Session

end FilterScript
