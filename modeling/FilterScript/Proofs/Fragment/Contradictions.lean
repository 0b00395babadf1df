import FilterScript.Proofs.Color.Literals
import FilterScript.Proofs.Fragment.Automatic
import FilterScript.Proofs.Fragment.Forms
import FilterScript.Proofs.Path.Canonical
import Mathlib.Tactic.MkIffOfInductiveProp

/-!
# Contradictory letters

Letters ask for values of different kinds, and some ask for what others have changed before. No value passes
a modifier with such letters, and under every other modifier some value does. So a check is left out for no
set of letters: where two cannot hold together, nothing is written.

* **Paths** (`Color.levels?_of_slash`): an absolute path is no color.
* **Rejections** (`not_contradicts_of_render`): letters that let a value through do not contradict each
  other.
* **Values** (`exists_render_eq_ok`): a color name, a variable, a truth value or a zero passes all others.
* **Contradictory letters** (`accepts_iff_not_contradicts`): exactly these reject every value.
-/

namespace FilterScript

/-! ## Paths and colors -/

/-- Trimming keeps a first character that is not blank. -/
theorem Text.head?_trim {c : Char} (plain : isBlank c = false) {cs : List Char}
    (front : cs.head? = some c) : (trim cs).head? = some c := by
  have start : trimStart cs = cs := trimStart_of_head? fun d same => by
    obtain rfl := Option.some.inj (front.symm.trans same)
    exact plain
  obtain ⟨back, parts⟩ := trimEnd_prefix cs
  rw [trim, start]
  cases kept : trimEnd cs with
  | nil =>
    -- not all characters are blanks, as the first is none
    have count := count_trim plain cs
    rw [trim, start, kept, List.count_nil] at count
    exact absurd (List.mem_of_mem_head? front) (List.count_eq_zero.1 count.symm)
  | cons d rest =>
    rw [kept, List.cons_append] at parts
    rw [← parts] at front
    exact front

/-- Text whose first character is no digit is no numeral. -/
theorem Numeral.read?_cons_of_not_digit {base : Nat} {c : Char} (other : digitIn? base c = none)
    (cs : List Char) : read? base (c :: cs) = none := by
  rw [read?, if_neg (by simp), List.mapM_cons, other]
  rfl

namespace Color

/-- No hexadecimal color starts with a slash. -/
theorem ofHexText?_slash (cs : List Char) : ofHexText? ('/' :: cs) = none := by
  have noSign : dropHexSign ('/' :: cs) = '/' :: cs := rfl
  have noDigit : Numeral.digitIn? 16 '/' = none := by decide
  rw [ofHexText?, noSign, ofHexDigits?]
  split
  · rw [List.flatMap_cons]
    exact Numeral.read?_cons_of_not_digit noDigit _
  · split
    · exact Numeral.read?_cons_of_not_digit noDigit _
    · rfl

/-- No color name starts with a slash. -/
theorem lookup_names_slash (cs : List Char) : names.lookup (String.ofList ('/' :: cs)) = none := by
  have fronts : ∀ entry ∈ names, entry.1.toList.head? ≠ some '/' := by decide +kernel
  rw [List.lookup_eq_none_iff]
  rintro ⟨name, n⟩ inside
  simp only [bne_iff_ne, ne_eq]
  rintro rfl
  exact fronts _ inside (by rw [String.toList_ofList, List.head?_cons])

/-- No color function starts with a slash. -/
theorem ofCall?_slash (cs : List Char) (arguments : List (List Char)) :
    ofCall? (String.ofList ('/' :: cs)) arguments = none := by
  have other {name : String} (front : name.toList.head? ≠ some '/') :
      String.ofList ('/' :: cs) ≠ name := by
    rintro rfl
    exact front (by rw [String.toList_ofList, List.head?_cons])
  unfold ofCall?
  split
  · next same => exact absurd same (other (by decide))
  · next same => exact absurd same (other (by decide))
  · next same => exact absurd same (other (by decide))
  · next same => exact absurd same (other (by decide))
  · next same => exact absurd same (other (by decide))
  · rfl

/-- So no color text starts with a slash. -/
theorem ofStyle?_slash (cs : List Char) : ofStyle? ('/' :: cs) = none := by
  have small : Text.smallFrom [] ('/' :: cs) = '/' :: Text.smallFrom ['/'] cs := rfl
  unfold ofStyle?
  split
  · rfl
  · dsimp only
    rw [small, lookup_names_slash]
    show (splitCall? ('/' :: Text.smallFrom ['/'] cs)).bind _ = none
    rw [Option.bind_eq_none_iff]
    rintro ⟨name, arguments⟩ call
    have front : ∃ rest, name = '/' :: rest := by
      unfold splitCall? at call
      split at call
      · obtain ⟨rfl, -⟩ := Prod.mk.inj (Option.some.inj call)
        exact ⟨_, List.takeWhile_cons_of_pos (by decide)⟩
      · cases call
    obtain ⟨rest, rfl⟩ := front
    exact ofCall?_slash rest arguments

/-- **Paths** are no colors: the color of a text does not begin with a slash. -/
theorem levels?_of_slash {s : String} (front : s.toList.head? = some '/') : levels? s = none := by
  have trimmed := Text.head?_trim (c := '/') (by decide) front
  obtain ⟨cs, here⟩ := List.head?_eq_some_iff.1 trimmed
  rw [levels?, here, ofHexText?_slash, ofStyle?_slash]

/-- A resolved path is no color: it starts with a slash. -/
theorem parse_resolve_ne_ok (directory path t : String) :
    parse (.text (Path.resolve directory path)) ≠ .ok t := by
  rw [parse_text, levels?_of_slash (Path.isResolved_resolve directory path).head?]
  exact fun read => nomatch read

/-- The color that the witnesses use. -/
theorem parse_red : parse (.text "red") = .ok "$FF0000" := by
  have levels : levels? "red" = some ⟨0xFF, 0, 0⟩ := by decide +kernel
  rw [parse_text, levels]
  exact congrArg Except.ok (show literal (Levels.number ⟨0xFF, 0, 0⟩) = "$FF0000" by decide +kernel)

end Color

/-! ## Contradictions -/

/-- Whether letters ask for what cannot be had together. Each case is a letter and others that take
another kind of value than it leaves. -/
@[mk_iff]
inductive Modifier.Contradicts (m : Modifier) : Prop
  /-- The text is settled before the checks, and `n`, `b`, `d` or `i` lets no text through or `v` only one that
  is not settled. -/
  | text (settles : m.settlesText = true)
    (checks : m.refusesTexts = true ∨ m.variableName = true) : Contradicts m
  /-- The value is a path by `f` or `p`, and with `c` a color. -/
  | path (auto : m.auto = false) (path : m.file = true ∨ m.path = true) (color : m.color = true) :
    Contradicts m
  /-- The value is the name of a variable, and `n`, `b`, `d` or `i` lets no text through or `c` settles it. -/
  | variableName (variableName : m.variableName = true)
    (checks : m.refusesTexts = true ∨ m.color = true) : Contradicts m
  /-- The value is a truth value, and by `d`, `i` or `c` a number or a color. -/
  | boolean (boolean : m.boolean = true)
    (checks : m.decimal = true ∨ m.integer = true ∨ m.color = true) : Contradicts m

instance (m : Modifier) : Decidable m.Contradicts :=
  decidable_of_iff' _ (Modifier.contradicts_iff m)

namespace Fragment

namespace Rules

section Contradictions

variable {r : Rules} {a : Arg} {d e f : Draft} {s x : String}

/-! ## Rejections -/

/-- A path letter leaves the absolute path of a text. -/
theorem exists_path_of_prepare (auto : r.letters.auto = false)
    (path : r.letters.file = true ∨ r.letters.path = true) (h : r.prepare d = .ok e) :
    ∃ x, e.arg = .text (r.services.resolvePath x) := by
  obtain ⟨-, d', resolved, settled⟩ := (prepare_eq_ok_iff auto).1 h
  rw [(settleText_eq_ok settled).1]
  rw [resolve, if_pos (by simpa using path)] at resolved
  split at resolved
  · next x _ =>
    obtain rfl := Except.ok.inj resolved
    exact ⟨x, rfl⟩
  · cases resolved

/-- **Rejections**: letters that let a value through do not contradict each other. -/
theorem not_contradicts_of_render
    (bools : ∀ b t, r.services.parseColor (.bool b) ≠ .ok t)
    (paths : ∀ x t, r.services.parseColor (.text (r.services.resolvePath x)) ≠ .ok t)
    (h : r.render a = .ok s) : ¬r.letters.Contradicts := by
  obtain ⟨d, e, f, g, prepared, passes, colored, named, -⟩ := render_eq_ok_iff.1 h
  intro contradicts
  cases contradicts with
  | text settles checks =>
    obtain ⟨t, settled⟩ := settled_of_prepare settles prepared
    rcases checks with refuses | variableName
    · have text := Draft.isText_of_settled settled
      cases refuses.symm.trans ((passes_iff_of_isText text).1 passes).1
    · obtain ⟨-, -, fresh, -⟩ := named.exists_text variableName passes colored
      cases settled.symm.trans fresh
  | path auto path color =>
    obtain ⟨x, resolved⟩ := exists_path_of_prepare auto path prepared
    obtain ⟨-, rfl⟩ := (passes_iff_of_isText (Draft.isText_of_arg resolved)).1 passes
    rcases settleColor_eq_ok_iff.1 colored with ⟨noColor, -⟩ | ⟨-, t, read, -⟩
    · cases color.symm.trans noColor
    · rw [Draft.value, resolved] at read
      exact paths x t read
  | variableName variableName checks =>
    obtain ⟨noColor, -, -, x, given, -⟩ := named.exists_text variableName passes colored
    rcases checks with refuses | color
    · have text := Draft.isText_of_arg given
      cases refuses.symm.trans ((passes_iff_of_isText text).1 passes).1
    · cases color.symm.trans noColor
  | boolean boolean checks =>
    obtain ⟨b, truth, decimal, integer, rfl⟩ := passes.exists_bool boolean
    rcases checks with letter | letter | color
    · cases letter.symm.trans decimal
    · cases letter.symm.trans integer
    · rcases settleColor_eq_ok_iff.1 colored with ⟨noColor, -⟩ | ⟨-, t, read, -⟩
      · cases color.symm.trans noColor
      · rw [Draft.value, truth] at read
        exact bools b t read

/-! ## Values -/

/-- A text that is allowed is settled, as the path that it stands for or as it is. -/
theorem exists_prepare_eq_ok (settles : r.letters.settlesText = true)
    (allowed : r.allows (.text x) = true) :
    ∃ s, r.prepare ⟨.text x, none⟩ = .ok ⟨.text (r.carried x), some s⟩ := by
  have auto := Modifier.auto_of_settlesText settles
  have resolved : r.resolve ⟨.text x, none⟩ = .ok ⟨.text (r.carried x), none⟩ := by
    rw [resolve, carried, takesPath_of_not_auto auto]
    split <;> rfl
  have settled : ∃ s, r.settleText ⟨.text (r.carried x), none⟩ = .ok ⟨.text (r.carried x), some s⟩ := by
    unfold settleText
    split
    · exact ⟨_, rfl⟩
    · next plain =>
      rw [if_pos (Modifier.quotes_of_settlesText settles plain)]
      exact ⟨_, rfl⟩
  obtain ⟨s, settled⟩ := settled
  exact ⟨s, (prepare_eq_ok_iff auto).2 ⟨fun _ => allowed, _, resolved, settled⟩⟩

/-- A value that is no text is written if it passes the checks as it is, and is a color where one is
asked for. -/
theorem exists_render_eq_ok_of_not_text (fresh : r.letters.settlesText = false)
    (noText : a.isText = false) (present : a ≠ .omitted) (writable : a.isWritable = true)
    (passes : r.Passes ⟨a, none⟩ ⟨a, none⟩)
    (color : r.letters.color = true → ∃ t, r.services.parseColor (Value.ofArg a) = .ok t)
    (noName : r.letters.variableName = false) : ∃ s, r.render a = .ok s := by
  have colored : ∃ f s, r.settleColor ⟨a, none⟩ = .ok f ∧ f.arg = a ∧ finish f = .ok s := by
    cases letter : r.letters.color with
    | false =>
      obtain ⟨s, written⟩ := Arg.exists_scriptText? present writable
      exact ⟨⟨a, none⟩, s, settleColor_of_not_color letter _, rfl, write_eq_ok_iff.2 written⟩
    | true =>
      obtain ⟨t, read⟩ := color letter
      exact ⟨⟨a, some t⟩, t, settleColor_eq_ok_iff.2 (.inr ⟨letter, t, read, rfl⟩), rfl, rfl⟩
  obtain ⟨f, s, colored, same, finished⟩ := colored
  have named := namesVariable_of_not_variableName noName f
  have settled : r.settleAuto f = .ok f := settleAuto_of_not_text (by rw [same, noText])
  exact ⟨s, render_eq_ok_iff.2 ⟨_, _, f, f, prepare_of_not_settlesText fresh _, passes, colored, named,
    settled, finished⟩⟩

/-- The name of a variable is written if no letter refuses texts and no color is asked for. -/
theorem exists_render_eq_ok_of_isIdentifier (fresh : r.letters.settlesText = false)
    (name : Identifier.isIdentifier x = true) (takes : r.letters.refusesTexts = false)
    (noColor : r.letters.color = false)
    (listed : r.letters.type = true → ∃ e : Error, r.notAllowed (.text x) = e) :
    ∃ s, r.render (.text x) = .ok s := by
  cases auto : r.letters.auto with
  | false =>
    refine ⟨x, render_eq_ok_iff.2 ⟨_, _, _, _, prepare_of_not_settlesText fresh _,
      (passes_iff_of_isText rfl).2 ⟨takes, rfl⟩, settleColor_of_not_color noColor _, ?_,
      settleAuto_of_not_auto auto, rfl⟩⟩
    exact fun _ => ⟨rfl, x, rfl, name⟩
  | true => exact exists_render_text_eq_ok auto noColor takes listed name

/-- A boolean passes the checks unless they ask for a number. -/
theorem passes_bool (b : Bool) (noDecimal : r.letters.decimal = false)
    (noInteger : r.letters.integer = false) : r.Passes ⟨.bool b, none⟩ ⟨.bool b, none⟩ where
  notPath _ := rfl
  boolean _ := ⟨rfl, b, rfl⟩
  decimal letter := Bool.noConfusion (letter.symm.trans noDecimal)
  integer letter := Bool.noConfusion (letter.symm.trans noInteger)
  same _ := rfl

/-- An integer passes the checks unless they ask for a boolean. -/
theorem passes_int (n : Int) (noBoolean : r.letters.boolean = false) :
    r.Passes ⟨.int n, none⟩ ⟨.int n, none⟩ where
  notPath _ := rfl
  boolean letter := Bool.noConfusion (letter.symm.trans noBoolean)
  decimal _ := ⟨rfl, rfl⟩
  integer _ := ⟨rfl, n, rfl, rfl⟩
  same _ := rfl

/-- A text that is settled before the checks is written if no check refuses texts, and is a color
where one is asked for. -/
theorem exists_render_eq_ok_of_settlesText (settles : r.letters.settlesText = true)
    (allowed : r.allows (.text x) = true) (takes : r.letters.refusesTexts = false)
    (color : r.letters.color = true → ∃ t, r.services.parseColor (.text (r.carried x)) = .ok t)
    (noName : r.letters.variableName = false) : ∃ s, r.render (.text x) = .ok s := by
  obtain ⟨s, prepared⟩ := exists_prepare_eq_ok settles allowed
  have auto := Modifier.auto_of_settlesText settles
  have colored : ∃ f t, r.settleColor ⟨.text (r.carried x), some s⟩ = .ok f ∧ f.settled = some t := by
    cases letter : r.letters.color with
    | false => exact ⟨_, s, settleColor_of_not_color letter _, rfl⟩
    | true =>
      obtain ⟨t, read⟩ := color letter
      exact ⟨_, t, settleColor_eq_ok_iff.2 (.inr ⟨letter, t, read, rfl⟩), rfl⟩
  obtain ⟨f, t, colored, settled⟩ := colored
  have named := namesVariable_of_not_variableName noName f
  have passes := (passes_iff_of_isText (d := ⟨.text (r.carried x), some s⟩) rfl).2 ⟨takes, rfl⟩
  exact ⟨t, render_eq_ok_iff.2 ⟨_, _, f, f, prepared, passes, colored, named,
    settleAuto_of_not_auto auto, finish_of_settled settled⟩⟩

/-- **Values**: the name of a color, the name of a variable, a truth value or zero passes letters
that do not contradict each other. -/
theorem exists_render_eq_ok {red black : String} (types : r.types = [.text "red"])
    (isRed : r.services.parseColor (.text "red") = .ok red)
    (isBlack : r.services.parseColor (.int 0) = .ok black) (consistent : ¬r.letters.Contradicts) :
    ∃ a s, r.render a = .ok s := by
  cases settles : r.letters.settlesText with
  | true =>
    have allowed : r.allows (.text "red") = true := allows_text_iff.2 (.inr (by simp [types]))
    have takes := Bool.eq_false_iff.2 fun refuses => consistent (.text settles (.inl refuses))
    have noName := Bool.eq_false_iff.2 fun letter => consistent (.text settles (.inr letter))
    refine ⟨.text "red", exists_render_eq_ok_of_settlesText settles allowed takes ?_ noName⟩
    intro color
    have auto := Modifier.auto_of_settlesText settles
    have noPath : ¬r.takesPath = true := by
      rw [takesPath_of_not_auto auto, Bool.or_eq_true]
      exact fun path => consistent (.path auto path color)
    rw [carried, if_neg noPath]
    exact ⟨red, isRed⟩
  | false =>
    cases variableName : r.letters.variableName with
    | true =>
      have takes := Bool.eq_false_iff.2 fun refuses =>
        consistent (.variableName variableName (.inl refuses))
      have noColor := Bool.eq_false_iff.2 fun color =>
        consistent (.variableName variableName (.inr color))
      have texts : r.types = ["red"].map .text := types
      have listed := notAllowed_of_texts texts (.text "x")
      exact ⟨.text "x", exists_render_eq_ok_of_isIdentifier settles (by decide) takes noColor
        fun _ => ⟨_, listed⟩⟩
    | false =>
      cases boolean : r.letters.boolean with
      | true =>
        have noDecimal := Bool.eq_false_iff.2 fun letter => consistent (.boolean boolean (.inl letter))
        have noInteger := Bool.eq_false_iff.2 fun letter =>
          consistent (.boolean boolean (.inr (.inl letter)))
        exact ⟨.bool true, exists_render_eq_ok_of_not_text settles rfl Arg.noConfusion rfl
          (passes_bool true noDecimal noInteger)
          (fun color => absurd (.boolean boolean (.inr (.inr color))) consistent) variableName⟩
      | false =>
        exact ⟨.int 0, exists_render_eq_ok_of_not_text settles rfl Arg.noConfusion (by decide)
          (passes_int 0 boolean) (fun _ => ⟨black, isBlack⟩) variableName⟩

end Contradictions

end Rules

/-- No path is read as a color. -/
theorem Services.parseColor_resolvePath_ne_ok (directory path t : String) :
    (Services.inDirectory directory).parseColor
      (.text ((Services.inDirectory directory).resolvePath path)) ≠ .ok t := by
  simpa only [Services.inDirectory] using Color.parse_resolve_ne_ok directory path t

/-- **Contradictory letters** are exactly those that reject every value, whatever the types are. -/
theorem accepts_iff_not_contradicts (directory modifier : String) :
    ((∃ types v s, ofValue (.inDirectory directory) types modifier v = .ok s) ↔
        ¬(Modifier.parse modifier).Contradicts) ∧
      ((Modifier.parse modifier).Contradicts →
        ∀ types v, ∃ e, ofValue (.inDirectory directory) types modifier v = .error e) := by
  have consistent : (∃ types v s, ofValue (.inDirectory directory) types modifier v = .ok s) →
      ¬(Modifier.parse modifier).Contradicts := by
    rintro ⟨types, v, s, accepted⟩
    obtain ⟨a, -, rendered⟩ := bind_eq_ok_iff.1 accepted
    exact Rules.not_contradicts_of_render
      (r := ⟨.inDirectory directory, types, modifier, Modifier.parse modifier⟩)
      Color.parse_bool_ne_ok (Services.parseColor_resolvePath_ne_ok directory) rendered
  constructor
  · constructor
    · exact consistent
    · intro noContradiction
      obtain ⟨a, s, rendered⟩ := Rules.exists_render_eq_ok
        (r := ⟨.inDirectory directory, [.text "red"], modifier, Modifier.parse modifier⟩) rfl
        Color.parse_red rfl noContradiction
      refine ⟨[.text "red"], .ofArg a, s, bind_eq_ok_iff.2 ⟨a, ?_, rendered⟩⟩
      rw [Value.toArg, Value.toArg?_ofArg]
  · intro contradicts types v
    rw [← not_exists_eq_ok_iff]
    rintro ⟨s, accepted⟩
    exact consistent ⟨types, v, s, accepted⟩ contradicts

/-- Quotes and whole numbers contradict each other, unless the quotes are automatic. -/
theorem rejects_quoted_integer :
    (Modifier.parse "qi").Contradicts ∧
      (∀ types v, ∃ e, ofValue (.inDirectory "/work/clips") types "qi" v = .error e) ∧
      ∃ types v s, ofValue (.inDirectory "/work/clips") types "aqi" v = .ok s := by
  have contradicts : (Modifier.parse "qi").Contradicts := by decide
  have consistent : ¬(Modifier.parse "aqi").Contradicts := by decide
  exact ⟨contradicts, (accepts_iff_not_contradicts "/work/clips" "qi").2 contradicts,
    (accepts_iff_not_contradicts "/work/clips" "aqi").1.2 consistent⟩

end Fragment

end FilterScript
