import FilterScript.Proofs.Binding.Lines
import FilterScript.Proofs.Fragment.Forms

/-!
# Line feeds in calls

Each call is meant to be one line of a script. What keeps it on one line is looked at here fragment
by fragment: names and labels stand in the line as they are, and so do the texts of a call, except
for those that are escaped or read as colors.

* **Calls on one line** (`isOneLine_iff_of_bind_eq_ok`): under a name and identifiers without line
  feeds, the line of a call holds a line feed exactly if one of its texts brings it in.
* **Calls on two lines** (`bind_text_lineFeed`): a quoted text stands between its quotes as it is,
  line feeds and all.
-/

namespace FilterScript

namespace Binding

/-- What the values of a parameter are rendered with in a call. -/
def rulesOf (services : Fragment.Services) (s : Signature) (p : Parameter) : Fragment.Rules :=
  ⟨services, s.types, p.modifier, Modifier.parse p.modifier⟩

/-- Values are assigned to the parameters of the signature. -/
theorem fst_mem_of_mem_assign {params : List Parameter} {cut : List (List Arg)}
    {x : Parameter × Arg} (h : x ∈ assign params cut) : x.1 ∈ params := by
  obtain ⟨⟨p, segment⟩, paired, inside⟩ := List.mem_flatMap.1 h
  obtain ⟨a, -, rfl⟩ := List.mem_map.1 inside
  exact (List.of_mem_zip paired).1

section Lines

variable {services : Fragment.Services} {s : Signature}

/-- A call stays on one line if its name and its fragments do. -/
theorem isOneLine_line {name : String} (oneLine : Text.IsOneLine name) {texts : List String} :
    Text.IsOneLine (line name texts) ↔ ∀ t ∈ texts, Text.IsOneLine t := by
  rw [line, Text.isOneLine_append, Text.isOneLine_append, Text.isOneLine_append,
    Text.isOneLine_intercalate (by decide)]
  constructor
  · exact fun h => h.1.2
  · exact fun h => ⟨⟨⟨oneLine, by decide⟩, h⟩, by decide⟩

/-- A label without line feeds brings none into the line. -/
theorem isOneLine_labelled {p : Parameter}
    (identifier : ∀ i, p.identifier = some i → Text.IsOneLine i) {fragment : String} :
    Text.IsOneLine (p.labelled fragment) ↔ Text.IsOneLine fragment := by
  have label : Text.IsOneLine p.label := by
    unfold Parameter.label
    cases given : p.identifier with
    | none => decide
    | some i => exact identifier i given
  unfold Parameter.labelled
  split
  · rw [Text.isOneLine_append, Text.isOneLine_append]
    exact ⟨fun h => h.2, fun h => ⟨⟨label, by decide⟩, h⟩⟩
  · rfl

/-- What a value is written as is on one line unless the value brings line feeds into it. -/
theorem IsWritten.isOneLine_iff {count : Nat} {x : Parameter × Arg} {text : String}
    (h : IsWritten (callOf services s count) x text)
    (identifier : ∀ i, x.1.identifier = some i → Text.IsOneLine i)
    (colors : ∀ v t, services.parseColor v = .ok t → Text.IsOneLine t) :
    Text.IsOneLine text ↔ ¬(rulesOf services s x.1).BringsLineFeed x.2 := by
  obtain ⟨fragment, rendered, rfl⟩ := h
  have form : (rulesOf services s x.1).Form x.2 fragment :=
    Fragment.Rules.form_of_render rendered
  rw [isOneLine_labelled identifier, form.isOneLine_iff colors]

/-- Texts in the order of their values are on one line if no value brings line feeds in. -/
theorem forall_isOneLine_iff {count : Nat} {xs : List (Parameter × Arg)} {texts : List String}
    (written : List.Forall₂ (IsWritten (callOf services s count)) xs texts)
    (identifiers : ∀ x ∈ xs, ∀ i, x.1.identifier = some i → Text.IsOneLine i)
    (colors : ∀ v t, services.parseColor v = .ok t → Text.IsOneLine t) :
    (∀ t ∈ texts, Text.IsOneLine t) ↔
      ∀ x ∈ xs, ¬(rulesOf services s x.1).BringsLineFeed x.2 := by
  induction written with
  | nil => exact iff_of_true (fun _ absent => nomatch absent) fun _ absent => nomatch absent
  | cons first _ ih =>
    rw [List.forall_mem_cons, List.forall_mem_cons,
      first.isOneLine_iff (identifiers _ List.mem_cons_self) colors,
      ih fun x hx => identifiers x (List.mem_cons_of_mem _ hx)]

/-- An omitted value brings no line feeds in. -/
theorem forall_present_iff {xs : List (Parameter × Arg)} :
    (∀ x ∈ present xs, ¬(rulesOf services s x.1).BringsLineFeed x.2) ↔
      ∀ x ∈ xs, ¬(rulesOf services s x.1).BringsLineFeed x.2 := by
  constructor
  · intro h x hx
    by_cases omitted : x.2 = .omitted
    · rintro ⟨-, -, t, text, -⟩
      cases omitted.symm.trans text
    · exact h x (List.mem_filter.2 ⟨hx, bne_iff_ne.2 omitted⟩)
  · exact fun h x hx => h x (List.mem_filter.1 hx).1

end Lines

/-- A text without line feeds brings none in, if the working directory has none. -/
theorem not_bringsLineFeed {directory : String} (here : Text.IsOneLine directory) {s : Signature}
    {p : Parameter} {a : Arg} (there : ∀ t, a = .text t → Text.IsOneLine t) :
    ¬(rulesOf (.inDirectory directory) s p).BringsLineFeed a := by
  rintro ⟨-, -, t, text, lineFeed⟩
  apply lineFeed
  unfold Fragment.Rules.carried
  split
  · exact Path.isOneLine_resolve here (there t text)
  · exact there t text

/-- **Calls on one line**: under a name and identifiers without line feeds, the line of a call holds
a line feed exactly if one of its texts brings it in. If neither the texts nor the working directory
have line feeds, none does. -/
theorem isOneLine_iff_of_bind_eq_ok (directory : String) (s : Signature) (values : List Value)
    (args : List Arg) (text : String) (name : Text.IsOneLine s.name)
    (identifiers : ∀ p ∈ s.params, ∀ i, p.identifier = some i → Text.IsOneLine i)
    (taken : toArgs values = .ok args)
    (bound : bind (.inDirectory directory) s values = .ok text) :
    (Text.IsOneLine text ↔
      ∀ x ∈ assign s.params (segments s.params args),
        ¬(rulesOf (.inDirectory directory) s x.1).BringsLineFeed x.2) ∧
    (Text.IsOneLine directory → (∀ t, .text t ∈ args → Text.IsOneLine t) →
      Text.IsOneLine text) := by
  rw [bind_of_toArgs _ s taken] at bound
  obtain ⟨texts, written, whole, -, rfl⟩ := bindArgs_eq_ok_iff.1 bound
  obtain ⟨pairs, -, -⟩ := writeEach_eq_ok_iff.1 written
  have colors : ∀ v t, (Fragment.Services.inDirectory directory).parseColor v = .ok t →
      Text.IsOneLine t :=
    fun _ _ read => Color.isOneLine_of_parse_eq_ok read
  have labels : ∀ x ∈ present (assign s.params (segments s.params args)),
      ∀ i, x.1.identifier = some i → Text.IsOneLine i :=
    fun x hx => identifiers x.1 (fst_mem_of_mem_assign (List.mem_filter.1 hx).1)
  have oneLine : Text.IsOneLine (line s.name texts) ↔
      ∀ x ∈ assign s.params (segments s.params args),
        ¬(rulesOf (.inDirectory directory) s x.1).BringsLineFeed x.2 := by
    rw [isOneLine_line name, forall_isOneLine_iff pairs labels colors, forall_present_iff]
  refine ⟨oneLine, fun here there => oneLine.2 fun x hx => not_bringsLineFeed here ?_⟩
  intro t ht
  apply there t
  have values := map_snd_assign (isSegmentation_segments whole).length_le
  rw [whole] at values
  rw [← values, ← ht]
  exact List.mem_map_of_mem hx

/-- Texts with line feeds, one that is escaped and one that is read as a color. -/
theorem isOneLine_escaped_color :
    Text.IsOneLine "Foo" ∧
      bind (.inDirectory "/work/clips")
        ⟨"Foo", [⟨"e", none, false⟩, ⟨"qc", some "tint", true⟩], []⟩
        [.text "a\nb", .text "\n#F0F"] = .ok "Foo(\"\"\"a\\nb\"\"\", tint=$FF00FF)" ∧
      Text.IsOneLine "Foo(\"\"\"a\\nb\"\"\", tint=$FF00FF)" := by
  have bound : bind (.inDirectory "/work/clips")
      ⟨"Foo", [⟨"e", none, false⟩, ⟨"qc", some "tint", true⟩], []⟩
      [.text "a\nb", .text "\n#F0F"] = .ok "Foo(\"\"\"a\\nb\"\"\", tint=$FF00FF)" :=
    rfl
  refine ⟨by decide, bound, (isOneLine_iff_of_bind_eq_ok "/work/clips" _ _
    [.text "a\nb", .text "\n#F0F"] _ (by decide) (by decide) rfl bound).1.2 ?_⟩
  have assigned : assign [⟨"e", none, false⟩, ⟨"qc", some "tint", true⟩]
      (segments [⟨"e", none, false⟩, ⟨"qc", some "tint", true⟩] [.text "a\nb", .text "\n#F0F"]) =
        [(⟨"e", none, false⟩, .text "a\nb"), (⟨"qc", some "tint", true⟩, .text "\n#F0F")] :=
    rfl
  rw [assigned, List.forall_mem_cons, List.forall_mem_singleton]
  exact ⟨fun h => absurd h.2.1 (by decide), fun h => absurd h.1 (by decide)⟩

/-- A quoted text with a line feed makes two lines, though the signature has no line feed. -/
theorem bind_text_lineFeed :
    let s : Signature := ⟨"Foo", [⟨"q", none, false⟩], []⟩
    Signature.compile "Foo(q:)" = .ok s ∧ Text.IsOneLine s.name ∧
      (∀ p ∈ s.params, ∀ i, p.identifier = some i → Text.IsOneLine i) ∧
      bind (.inDirectory "/work/clips") s [.text "a\nb"] = .ok "Foo(\"a\nb\")" ∧
      ¬Text.IsOneLine "Foo(\"a\nb\")" :=
  ⟨rfl, by decide, by decide, rfl, by decide⟩

end Binding

end FilterScript
