import FilterScript.Proofs.Signature.RoundTrip

/-!
# The forms of a signature

The tokens of a signature stand in parentheses behind its name, or beside it: as a text with commas, as
the list of its pieces, or in a mapping together with the types. A list behind a name that has its tokens
in parentheses is the list of types.

* **In parentheses** (`compile_combined`, `compile_combined_types`): the tokens are those between the first
  opening and the last closing parenthesis, whatever they hold, and the types are the other list.
* **In pieces** (`ofLists_pieces`): splitting a text at its commas and trimming the pieces can be left to the
  compiler.
* **All forms** (`compile_forms`): they compile to one signature, whichever way the types are given.
-/

namespace FilterScript

/-! ## Pieces of a text -/

/-- What stands between the commas of a text, with its blanks; a blank text has no pieces. -/
def pieces (s : String) : List String :=
  if Text.isBlankText s then [] else (s.toList.splitOn ',').map String.ofList

/-- The pieces of a text between commas, without the blanks around them. -/
theorem map_trimmed_pieces (s : String) : (pieces s).map Text.trimmed = splitCommas s := by
  unfold pieces splitCommas
  split
  · rfl
  · simp [Text.trimmed, Function.comp_def]

/-- Trimmed pieces are trimmed already. -/
theorem map_trimmed_splitCommas (s : String) : (splitCommas s).map Text.trimmed = splitCommas s := by
  rw [← map_trimmed_pieces, List.map_map]
  exact List.map_congr_left fun piece _ => Text.trimmed_trimmed piece

namespace Signature

/-! ## Lists of types -/

/-- The ways in which the types of a signature are given. -/
inductive TypeList where
  /-- There is no list. -/
  | absent
  /-- A text with commas. -/
  | commas (s : String)
  /-- A list of texts. -/
  | texts (items : List String)

namespace TypeList

/-- The value that a list of types is given as. -/
def toValue : TypeList → Value
  | absent => .null
  | commas s => .text s
  | texts items => .list (items.map .text)

/-- The types in a list. -/
def types : TypeList → List String
  | absent => []
  | commas s => splitCommas s
  | texts items => items.map Text.trimmed

/-- The compiler finds the types in each of them. -/
theorem splitList_toValue (list : TypeList) :
    splitList list.toValue = .ok (list.types.map .text) := by
  cases list with
  | absent => rfl
  | commas s => rfl
  | texts items => rw [toValue, splitList_list, types, List.map_map, List.map_map]; rfl

end TypeList

/-! ## One form after the other -/

section Forms

variable {name : String} (noOpen : '(' ∉ name.toList) (body : String) (types : Value)

include noOpen

/-- **In parentheses**, with the types given by their name. -/
theorem compile_combined :
    compile (name ++ "(" ++ body ++ ")") .null types =
      ofLists (Text.trimmed name) (.text body) types := by
  rw [compile, splitCombined_append noOpen]
  rfl

/-- **In parentheses**, with the types behind. -/
theorem compile_combined_types :
    compile (name ++ "(" ++ body ++ ")") types .null =
      ofLists (Text.trimmed name) (.text body) types := by
  rw [compile, splitCombined_append noOpen]
  show ofLists (Text.trimmed name) (listsWithBody body types .null).1
    (listsWithBody body types .null).2 = _
  rw [listsWithBody_null]

/-- Beside the name. -/
theorem compile_beside (params : Value) :
    compile name params types =
      ofLists (Text.trimmed name) (listsOfMap params types).1 (listsOfMap params types).2 := by
  rw [compile, splitCombined_of_not_mem noOpen]
  rfl

end Forms

/-- **In pieces**: a list of texts that are the tokens of a text but for blanks is as good as the
text. -/
theorem ofLists_pieces (name : String) {body : String} {items : List String}
    (same : items.map Text.trimmed = splitCommas body) (types : Value) :
    ofLists name (.list (items.map .text)) types = ofLists name (.text body) types := by
  have tokens : splitList (.list (items.map .text)) = splitList (.text body) := by
    rw [splitList_list, splitList, ← same, List.map_map, List.map_map]
    rfl
  rw [ofLists, ofLists, tokens]

/-! ## All forms -/

/-- **All forms**: tokens in parentheses with the types by name or behind, tokens beside the name as
a text, as its pieces, as its trimmed pieces, or in a mapping with the types: each compiles, and all
to the signature with the trimmed name, the parameters that the tokens stand for, and the types. -/
theorem compile_forms {name : String} (noOpen : '(' ∉ name.toList) (body : String) (list : TypeList) :
    let s : Signature :=
      ⟨Text.trimmed name, (splitCommas body).map Parameter.parse, list.types.map .text⟩
    compile (name ++ "(" ++ body ++ ")") .null list.toValue = .ok s ∧
      compile (name ++ "(" ++ body ++ ")") list.toValue .null = .ok s ∧
      compile name (.text body) list.toValue = .ok s ∧
      compile name (.list ((pieces body).map .text)) list.toValue = .ok s ∧
      compile name (.list ((splitCommas body).map .text)) list.toValue = .ok s ∧
      ∀ entries, Value.field "params" entries = .text body →
        Value.field "types" entries = list.toValue → compile name (.map entries) .null = .ok s := by
  intro s
  have compiled : ofLists (Text.trimmed name) (.text body) list.toValue = .ok s :=
    ofLists_text (Text.trimmed name) body list.splitList_toValue
  refine ⟨?_, ?_, ?_, ?_, ?_, fun entries params types => ?_⟩
  · rw [compile_combined noOpen, compiled]
  · rw [compile_combined_types noOpen, compiled]
  · rw [compile_beside noOpen]
    exact compiled
  · rw [compile_beside noOpen]
    exact (ofLists_pieces _ (map_trimmed_pieces body) list.toValue).trans compiled
  · rw [compile_beside noOpen]
    exact (ofLists_pieces _ (map_trimmed_splitCommas body) list.toValue).trans compiled
  · rw [compile_beside noOpen]
    show ofLists _ (Value.field "params" entries) (Value.field "types" entries) = _
    rw [params, types, compiled]

/-- Tokens with parentheses, an escaped colon and nothing between two commas, and types with blanks
around them. -/
theorem compile_forms_parentheses :
    let s : Signature := ⟨"Blend", [⟨"i", some "(a", true⟩, ⟨"", none, false⟩, ⟨"q", some ":b)", true⟩],
      [.text "YV12", .text "RGB32"]⟩
    let types : Value := .text " YV12 , RGB32"
    let entries : List (Value × Value) :=
      [(.text "types", types), (.text "params", .text "i: (a,, q:\\:b)")]
    '(' ∉ " Blend ".toList ∧ compile " Blend (i: (a,, q:\\:b))" .null types = .ok s ∧
      compile " Blend (i: (a,, q:\\:b))" types .null = .ok s ∧
      compile " Blend " (.text "i: (a,, q:\\:b)") types = .ok s ∧
      compile " Blend " (.list [.text "i: (a", .text "", .text " q:\\:b)"]) types = .ok s ∧
      compile " Blend " (.list [.text "i: (a", .text "", .text "q:\\:b)"]) types = .ok s ∧
      compile " Blend " (.map entries) .null = .ok s := by
  intro s types entries
  have noOpen : '(' ∉ " Blend ".toList := by decide
  obtain ⟨named, behind, beside, whole, trimmed, mapped⟩ :=
    compile_forms noOpen "i: (a,, q:\\:b)" (.commas " YV12 , RGB32")
  exact ⟨noOpen, named, behind, beside, whole, trimmed, mapped entries rfl rfl⟩

end Signature

end FilterScript
