import FilterScript.Arg
import FilterScript.Parameter
import FilterScript.Text.Quoted

/-!
# Values

Configurations, catalogs, lists of steps and calls hold values of many kinds: the scalars, lists,
mappings, and a few kinds that scripts have no notation for. A value is shown in messages in two
ways: alone, and inside a list, where texts stand in quotes; no whole number in it may have too many
digits for that. In a call it is an argument, if its kind is one that calls take; the main statement
says that arguments are found again in the values made of them.
-/

namespace FilterScript

/-- A value of any kind. -/
inductive Value where
  /-- No value. -/
  | null
  /-- A truth value. -/
  | bool (b : Bool)
  /-- A whole number of any size. -/
  | int (n : Int)
  /-- A fractional number. -/
  | float (x : Binary64)
  /-- A ratio of whole numbers of any size. -/
  | ratio (q : Rat)
  /-- A text. -/
  | text (s : String)
  /-- A list. -/
  | list (items : List Value)
  /-- A mapping, in the order of its keys. -/
  | map (entries : List (Value × Value))
  /-- A ready parameter. -/
  | parameter (p : Parameter)
  /-- A ready argument. -/
  | arg (a : Arg)
  /-- A value of another kind: the name of the kind, the value as a message shows it alone and
  inside a list, the argument that it acts as, and the items that it can be gone through by. -/
  | other (kind shown quoted : String) (actsAs : Option Arg) (items : Option (List Value))

instance : Inhabited Value := ⟨.null⟩

namespace Value

/-! ## Texts for messages -/

/-- A ready argument as it is shown inside a list. -/
def quotedArg : Arg → String
  | .bool b => "Bool(value=" ++ (if b then "True" else "False") ++ ")"
  | .int n => "Number(value=" ++ Numeral.integerText n ++ ")"
  | .float x => "Number(value=" ++ x.shortText ++ ")"
  | .text s => "Text(value=" ++ Text.quoted s ++ ")"
  | .omitted => "Unset"

mutual

/-- A value as it is shown inside a list: texts in quotes. -/
def quoted : Value → String
  | null => "None"
  | bool true => "True"
  | bool false => "False"
  | int n => Numeral.integerText n
  | float x => x.shortText
  | ratio q =>
    "Fraction(" ++ Numeral.integerText q.num ++ ", " ++ Numeral.integerText q.den ++ ")"
  | text s => Text.quoted s
  | list items => "[" ++ ", ".intercalate (quotedItems items) ++ "]"
  | map entries => "\x7b" ++ ", ".intercalate (quotedEntries entries) ++ "\x7d"
  | parameter p => p.text
  | arg a => quotedArg a
  | other _ _ shown _ _ => shown

/-- The items of a list as they are shown. -/
def quotedItems : List Value → List String
  | [] => []
  | item :: rest => quoted item :: quotedItems rest

/-- The entries of a mapping as they are shown. -/
def quotedEntries : List (Value × Value) → List String
  | [] => []
  | (key, value) :: rest => (quoted key ++ ": " ++ quoted value) :: quotedEntries rest

end

/-- A value as it is shown alone: texts as they are. -/
def shown : Value → String
  | text s => s
  | ratio q =>
    if q.den = 1 then Numeral.integerText q.num
    else Numeral.integerText q.num ++ "/" ++ Numeral.integerText q.den
  | parameter p => p.text
  | other _ shown _ _ _ => shown
  | v => v.quoted

mutual

/-- Whether a value can be shown: no whole number in it has too many digits. -/
def isShowable : Value → Bool
  | int n => Numeral.isWritable n
  | ratio q => Numeral.isWritable q.num && Numeral.isWritable q.den
  | list items => areShowable items
  | map entries => entriesAreShowable entries
  | arg a => a.isWritable
  | other _ _ _ _ items => itemsAreShowable items
  | _ => true

/-- Whether all values of a list can be shown. -/
def areShowable : List Value → Bool
  | [] => true
  | item :: rest => isShowable item && areShowable rest

/-- Whether all keys and values of a mapping can be shown. -/
def entriesAreShowable : List (Value × Value) → Bool
  | [] => true
  | (key, value) :: rest => isShowable key && isShowable value && entriesAreShowable rest

/-- Whether what a value is gone through by can be shown. -/
def itemsAreShowable : Option (List Value) → Bool
  | none => true
  | some items => areShowable items

end

/-- A list is shown if each of its values is. -/
theorem areShowable_eq_all (values : List Value) : areShowable values = values.all isShowable := by
  induction values with
  | nil => rfl
  | cons v rest ih => rw [areShowable, ih, List.all_cons]

/-- The name of the kind of a value. -/
def kindName : Value → String
  | null => "NoneType"
  | bool _ => "bool"
  | int _ => "int"
  | float _ => "float"
  | ratio _ => "Fraction"
  | text _ => "str"
  | list _ => "list"
  | map _ => "dict"
  | parameter _ => "ParameterDefinition"
  | arg (.bool _) => "Bool"
  | arg (.int _) => "Number"
  | arg (.float _) => "Number"
  | arg (.text _) => "Text"
  | arg .omitted => "_UnsetType"
  | other kind _ _ _ _ => kind

/-! ## Arguments and values -/

/-- The argument that a value is in a call, if calls take it. -/
def toArg? : Value → Option Arg
  | null => some .omitted
  | bool b => some (.bool b)
  | int n => some (.int n)
  | float x => some (.float x)
  | ratio q => (Binary64.ofRat? q).map .float
  | text s => some (.text s)
  | arg a => some a
  | other _ _ _ actsAs _ => actsAs
  | _ => none

/-- The value of an argument; what is left out is no value. -/
def ofArg : Arg → Value
  | .bool b => bool b
  | .int n => int n
  | .float x => float x
  | .text s => text s
  | .omitted => null

/-- The value made of an argument is that argument in a call. -/
theorem toArg?_ofArg (a : Arg) : (ofArg a).toArg? = some a := by
  cases a <;> rfl

/-- The value made of an argument is shown if the argument is written. -/
theorem isShowable_ofArg (a : Arg) : (ofArg a).isShowable = a.isWritable := by
  cases a <;> rfl

/-- The text that a value is or acts as. -/
def toText? : Value → Option String
  | text s => some s
  | other _ _ _ (some (.text s)) _ => some s
  | _ => none

/-- Whether a value is the given text. -/
def isText (s : String) : Value → Bool
  | text t => s == t
  | _ => false

/-- The only value that is a given text. -/
theorem isText_eq_true_iff {s : String} {v : Value} : v.isText s = true ↔ v = .text s := by
  cases v with
  | text t => rw [isText, beq_iff_eq, text.injEq, eq_comm]
  | _ => simp [isText]

/-- The texts of values are listed if all of them are texts. -/
theorem mapM_text_eq_some_iff {values : List Value} {texts : List String} :
    values.mapM (fun | .text s => some s | _ => none) = some texts ↔ values = texts.map .text := by
  induction values generalizing texts with
  | nil => cases texts <;> simp
  | cons v rest ih =>
    rw [List.mapM_cons]
    cases texts with
    | nil => cases v <;> simp [Option.bind_eq_some_iff]
    | cons s front =>
      cases v with
      | text t => simpa [Option.bind_eq_some_iff, ih] using and_comm
      | _ => simp

/-- Whether a value counts as present when it is tested. -/
def isTruthy : Value → Bool
  | null => false
  | bool b => b
  | int n => n != 0
  | float x => !x.isZero
  | ratio q => q.num != 0
  | text s => s != ""
  | list items => !items.isEmpty
  | map entries => !entries.isEmpty
  | parameter _ => true
  | arg .omitted => false
  | arg _ => true
  | other _ _ _ _ (some items) => !items.isEmpty
  | other .. => true

/-- The items that a value is gone through by: the characters of a text, the items of a list, the
keys of a mapping. -/
def items? : Value → Option (List Value)
  | text s => some (s.toList.map fun c => text (String.singleton c))
  | list items => some items
  | map entries => some (entries.map Prod.fst)
  | other _ _ _ _ items => items
  | _ => none

/-! ## Mappings -/

/-- The number that a value is as a key: truth values count as one and zero. -/
def toNumber? : Value → Option Rat
  | bool b => some (if b then 1 else 0)
  | int n => some n
  | float x => x.toRat?
  | ratio q => some q
  | _ => none

/-- Whether two values are the same key. Numbers are compared by size, whatever their kind. -/
def sameKey : Value → Value → Bool
  | null, null => true
  | text s, text t => s == t
  | float (.infinite a), float (.infinite b) => a == b
  | other kind _ q _ _, other kind' _ q' _ _ => kind == kind' && q == q'
  | v, w =>
    match v.toNumber?, w.toNumber? with
    | some p, some q => p == q
    | _, _ => false

/-- The entries of a mapping after one more is written: an entry with the same key keeps its key and
its place and takes the value. -/
def putEntry (key value : Value) : List (Value × Value) → List (Value × Value)
  | [] => [(key, value)]
  | (k, v) :: rest =>
    if sameKey k key then (k, value) :: rest else (k, v) :: putEntry key value rest

/-- The mapping with the given entries, written one after the other. -/
def ofEntries (entries : List (Value × Value)) : Value :=
  map (entries.foldl (fun done (key, value) => putEntry key value done) [])

/-- The value under a text key. -/
def field? (name : String) (entries : List (Value × Value)) : Option Value :=
  (entries.find? fun (key, _) => key.isText name).map Prod.snd

/-- The value under a text key, or no value. -/
def field (name : String) (entries : List (Value × Value)) : Value :=
  (field? name entries).getD null

/-! ## Kinds without a notation -/

/-- Bytes. They can be gone through by their numbers. -/
def bytes (data : List UInt8) : Value :=
  let shown := Text.quotedBytes data
  other "bytes" shown shown none (some (data.map fun b => int b.toNat))

/-- A row of values as it is shown. -/
def quotedTuple : List Value → String
  | [item] => "(" ++ item.quoted ++ ",)"
  | items => "(" ++ ", ".intercalate (items.map quoted) ++ ")"

/-- A row of values: a list that is never changed. -/
def tuple (items : List Value) : Value :=
  other "tuple" (quotedTuple items) (quotedTuple items) none (some items)

/-- The items of a list or of a row. -/
def listItems? : Value → Option (List Value)
  | list items => some items
  | other "tuple" _ _ _ items => items
  | _ => none

end Value

end FilterScript
