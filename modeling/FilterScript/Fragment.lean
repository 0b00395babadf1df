import FilterScript.Color.Literal
import FilterScript.Identifier
import FilterScript.Path

/-!
# Fragments

A fragment is the text that a value becomes in the line of a call. The letters of its modifier check
the value, change it, or settle its text, in a fixed order: types, paths and quotes first, unless
the letter for automatic text is there; then the checks for a second path, a truth value, a number,
a whole number, a color and a variable; automatic text last. A value whose text nothing has settled
is written in its plain notation, if it has one. The main statements say what escaping does with each
character, and which values are written.
-/

namespace FilterScript

namespace Fragment

/-! ## Quotes and escapes -/

/-- A text in quotes. Scripts have no escapes inside them. -/
def quote (s : String) : String :=
  "\"" ++ s ++ "\""

/-- A text in which one character is replaced by others, wherever it stands. -/
def replaceEach (old : Char) (new : List Char) (cs : List Char) : List Char :=
  cs.flatMap fun c => if c = old then new else [c]

/-- The characters of a text are replaced piece by piece. -/
theorem replaceEach_append (old : Char) (new xs ys : List Char) :
    replaceEach old new (xs ++ ys) = replaceEach old new xs ++ replaceEach old new ys :=
  List.flatMap_append

/-- A character that is replaced by others is gone. -/
theorem not_mem_replaceEach {old : Char} {new : List Char} (h : old ∉ new) (cs : List Char) :
    old ∉ replaceEach old new cs := by
  intro inside
  obtain ⟨c, -, hc⟩ := List.mem_flatMap.1 inside
  split at hc
  · exact h hc
  · next other => exact other (List.mem_singleton.1 hc).symm

/-- A text with every backslash doubled, and then every line feed spelled. -/
def escapeChars (cs : List Char) : List Char :=
  replaceEach '\n' ['\\', 'n'] (replaceEach '\\' ['\\', '\\'] cs)

/-- A text is escaped piece by piece. -/
theorem escapeChars_append (xs ys : List Char) :
    escapeChars (xs ++ ys) = escapeChars xs ++ escapeChars ys := by
  simp only [escapeChars, replaceEach_append]

/-- Escaping leaves no line feed. -/
theorem lineFeed_not_mem_escapeChars (cs : List Char) : '\n' ∉ escapeChars cs :=
  not_mem_replaceEach (by decide) _

/-- A text with escapes in triple quotes. -/
def escape (s : String) : String :=
  "\"\"\"" ++ String.ofList (escapeChars s.toList) ++ "\"\"\""

/-! ## Plain notation -/

/-- The text of an argument in its plain notation. What is left out has none, and a whole number
with too many digits is not written. -/
def write (a : Arg) : Outcome String :=
  match a.scriptText? with
  | some s => .ok s
  | none => .error (if a = .omitted then Fault.noText else Fault.tooManyDigits)

/-- The arguments that are written, and what they are written as. -/
theorem write_eq_ok_iff {a : Arg} {s : String} : write a = .ok s ↔ a.scriptText? = some s := by
  unfold write
  cases a.scriptText? <;> simp

/-- An argument that is there and not written has too many digits. -/
theorem write_eq_error {a : Arg} (present : a ≠ .omitted) {e : Failure} (h : write a = .error e) :
    a.isWritable = false ∧ e = Fault.tooManyDigits := by
  unfold write at h
  split at h
  · cases h
  · next unwritten =>
    rw [if_neg present, Except.error.injEq] at h
    exact ⟨(Arg.scriptText?_eq_none.1 unwritten).resolve_left present, h.symm⟩

/-! ## What a value is rendered with -/

/-- What fragments need from outside: how a path is made absolute and how a color is read. -/
structure Services where
  /-- The absolute form of a path. -/
  resolvePath : String → String
  /-- The literal of a color. -/
  parseColor : Value → Outcome String

/-- The services of a machine whose working directory is given. -/
def Services.inDirectory (directory : String) : Services where
  resolvePath := Path.resolve directory
  parseColor := Color.parse

/-- What the steps know beside the value. -/
structure Rules where
  /-- The services. -/
  services : Services
  /-- The values allowed for a type. -/
  types : List Value
  /-- The modifier as it is written, for error messages. -/
  modifier : String
  /-- The letters of the modifier. -/
  letters : Modifier

/-- A value on its way, with its text once that is settled. -/
structure Draft where
  /-- The value. -/
  arg : Arg
  /-- The text, once a step has settled it. -/
  settled : Option String := none

namespace Draft

/-- The value, for checks that report it. -/
def value (d : Draft) : Value :=
  Value.ofArg d.arg

/-- Whether the fragment is a text: its form is settled, or the value is a text. -/
def isText (d : Draft) : Bool :=
  d.settled.isSome || d.arg.isText

/-- The draft with its text settled. -/
def settle (d : Draft) (s : String) : Draft :=
  { d with settled := some s }

/-- The draft with another value. -/
def withArg (d : Draft) (a : Arg) : Draft :=
  { d with arg := a }

end Draft

namespace Rules

/-- The failure for a value that is not what was expected. -/
def mismatch (r : Rules) (expected : Expected) (value : Value) : Failure :=
  (Error.mismatch expected value (some r.modifier)).raise

/-- The failure for a value that is not one of the types. The message needs the types to be texts.
-/
def notAllowed (r : Rules) (value : Value) : Failure :=
  match r.types.mapM fun | .text s => some s | _ => none with
  | some allowed => (Error.notAllowed value allowed r.modifier).raise
  | none => Fault.wrongKind

/-- Whether a value is one of the types, or one that is let through without being one. -/
def allows (r : Rules) (a : Arg) : Bool :=
  !a.isTruthy || match a with
    | .text s => r.types.any (Value.isText s)
    | _ => false

/-! ## The steps before the checks -/

/-- `t`: the value is one of the types. -/
def checkType (r : Rules) (d : Draft) : Outcome Draft :=
  if r.letters.type && !r.allows d.arg then .error (r.notAllowed d.value) else .ok d

/-- `f` and `p`: the value is a path, and becomes the absolute one. -/
def resolve (r : Rules) (d : Draft) : Outcome Draft :=
  if r.letters.file || r.letters.path then
    match d.arg with
    | .text s => .ok (d.withArg (.text (r.services.resolvePath s)))
    | _ => .error (r.mismatch .text d.value)
  else .ok d

/-- `e`: the text is escaped; `f`, `p`, `q` and `t`: it is quoted. -/
def settleText (r : Rules) (d : Draft) : Outcome Draft :=
  if r.letters.escaped then
    match d.arg with
    | .text s => .ok (d.settle (escape s))
    | _ => .error (r.mismatch .text d.value)
  else if r.letters.file || r.letters.path || r.letters.quoted || r.letters.type then
    (write d.arg).map fun s => d.settle (quote s)
  else .ok d

/-! ## The checks -/

/-- `n`: there is no second path. -/
def checkNotPath (r : Rules) (d : Draft) : Outcome Draft :=
  if r.letters.notPath && d.isText then .error (Error.secondPath d.value r.modifier) else .ok d

/-- `b`: the value is a truth value. -/
def checkBoolean (r : Rules) (d : Draft) : Outcome Draft :=
  if r.letters.boolean && (d.isText || d.arg.variant != .bool) then
    .error (r.mismatch .boolean d.value)
  else .ok d

/-- `d`: the value is a finite number. -/
def checkDecimal (r : Rules) (d : Draft) : Outcome Draft :=
  if r.letters.decimal && (d.isText || !d.arg.isFiniteNumber) then
    .error (r.mismatch .number d.value)
  else .ok d

/-- `i`: the value is a whole number, of either kind of number. -/
def checkInteger (r : Rules) (d : Draft) : Outcome Draft :=
  if !r.letters.integer then .ok d
  else if d.isText then .error (r.mismatch .integer d.value)
  else
    match d.arg with
    | .int _ => .ok d
    | .float x =>
      match x.toInt? with
      | some n => .ok (d.withArg (.int n))
      | none => .error (r.mismatch .integer d.value)
    | _ => .error (r.mismatch .integer d.value)

/-- `c`: the value is a color, and the text its literal. -/
def settleColor (r : Rules) (d : Draft) : Outcome Draft :=
  if r.letters.color then
    match r.services.parseColor d.value with
    | .ok s => .ok (d.settle s)
    | .error e => .error e
  else .ok d

/-- `v`: the value is the name of a variable. -/
def checkVariable (r : Rules) (d : Draft) : Outcome Draft :=
  if !r.letters.variableName then .ok d
  else
    match d.arg, d.settled with
    | .text s, none =>
      if Identifier.isIdentifier s then .ok d else .error (r.mismatch .variableName (.text s))
    | _, _ => .error (r.mismatch .variableName d.value)

/-- What automatic text becomes. With `t` a type is quoted and all else is a variable; with `p` it
is a path; with `q` it is quoted; else it is a variable. -/
def autoText (r : Rules) (s : String) : Outcome (Option String) :=
  let variableOnly : Outcome (Option String) :=
    if Identifier.isIdentifier s then .ok none else .error (r.mismatch .variableName (.text s))
  if r.letters.type then
    if r.allows (.text s) then .ok (some (quote s))
    else
      match r.notAllowed (.text s) with
      | .error _ => variableOnly
      | .fault f => .error f
  else if r.letters.path then .ok (some (quote (r.services.resolvePath s)))
  else if r.letters.quoted then .ok (some (quote s))
  else variableOnly

/-- `a`: a text that nothing has settled is settled by what it looks like. -/
def settleAuto (r : Rules) (d : Draft) : Outcome Draft :=
  if !r.letters.auto then .ok d
  else
    match d.arg, d.settled with
    | .text s, none => (r.autoText s).map fun settled => { d with settled := settled }
    | _, _ => .ok d

/-! ## All steps -/

/-- The steps before the checks. -/
def prepare (r : Rules) (d : Draft) : Outcome Draft :=
  if r.letters.auto then .ok d
  else do
    let d ← r.checkType d
    let d ← r.resolve d
    r.settleText d

/-- The checks and the steps after them. -/
def check (r : Rules) (d : Draft) : Outcome Draft := do
  let d ← r.checkNotPath d
  let d ← r.checkBoolean d
  let d ← r.checkDecimal d
  let d ← r.checkInteger d
  let d ← r.settleColor d
  let d ← r.checkVariable d
  r.settleAuto d

/-- The text of a draft that has passed all steps. -/
def finish (d : Draft) : Outcome String :=
  match d.settled with
  | some s => .ok s
  | none => write d.arg

/-- The fragment of an argument. -/
def render (r : Rules) (a : Arg) : Outcome String := do
  let d ← r.prepare ⟨a, none⟩
  let d ← r.check d
  finish d

end Rules

/-- The fragment of an argument under a modifier. -/
def render (services : Services) (types : List Value) (modifier : String) (a : Arg) :
    Outcome String :=
  Rules.render ⟨services, types, modifier, Modifier.parse modifier⟩ a

end Fragment

namespace Value

/-- The failure for a value that is no argument: a ratio is too large, and any other value is of a
kind that calls do not take. -/
def refusal : Value → Failure
  | .ratio _ => Fault.tooLarge
  | v => Error.unsupported v

/-- The argument that a value is in a call. -/
def toArg (v : Value) : Outcome Arg :=
  match v.toArg? with
  | some a => .ok a
  | none => .error v.refusal

/-- The values that are arguments in a call, and which ones they are. -/
theorem toArg_eq_ok_iff {v : Value} {a : Arg} : v.toArg = .ok a ↔ v.toArg? = some a := by
  unfold toArg
  cases v.toArg? <;> simp

end Value

/-- The fragment of a value under a modifier. -/
def Fragment.ofValue (services : Services) (types : List Value) (modifier : String) (v : Value) :
    Outcome String := do
  let a ← v.toArg
  render services types modifier a

end FilterScript
