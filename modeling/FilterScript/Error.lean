import FilterScript.Value

/-!
# What can go wrong

Errors are the failures that the library reports, one constructor per cause, each with its message
and the facts it carries. Faults are the failures that no message is written for: input of a kind
that an operation was never meant for, a document that is no YAML, a file that cannot be read. An error
is reported only if its message can be written: the values that it shows may not have too many digits.
The main statement says when an error is raised as it is.
-/

namespace FilterScript

/-- What a value was expected to be. -/
inductive Expected where
  | boolean
  | number
  | integer
  | text
  | color
  | variableName
deriving DecidableEq, Repr

namespace Expected

/-- The words for what was expected. -/
def words : Expected → String
  | boolean => "boolean"
  | number => "number"
  | integer => "integer"
  | text => "string"
  | color => "color"
  | variableName => "variable name"

end Expected

/-- A failure that is reported with a message. -/
inductive Error where
  /-- A call has more values than the signature has parameters for. -/
  | tooManyArguments (call : String) (count : Nat)
  /-- An unnamed value follows a value that was left out. -/
  | ambiguousPosition (call fragment : String)
  /-- A required value is missing. -/
  | missingRequired (call : String) (position : Nat)
  /-- A required file name is missing. -/
  | missingFilename (call : String) (position : Nat)
  /-- A value is not what its modifier asks for. -/
  | mismatch (expected : Expected) (value : Value) (modifier : Option String)
  /-- A value is none of the allowed types. -/
  | notAllowed (value : Value) (allowed : List String) (modifier : String)
  /-- A value is of a kind that calls do not take. -/
  | unsupported (value : Value)
  /-- A text stands where there may be no second path. -/
  | secondPath (value : Value) (modifier : String)
  /-- A filter of this name is registered. -/
  | alreadyRegistered (name : String)
  /-- The name belongs to scripts themselves. -/
  | reservedName (name : String)
  /-- No filter of this name is registered. -/
  | unknownName (name : String)
  /-- A path holds characters that scripts cannot have in paths. -/
  | invalidPath (path : String)
  /-- There is no file at a path. -/
  | notAFile (path : String)
  /-- A file is neither a script nor a plugin. -/
  | unknownFileType (path : String)
  /-- There is no directory at a path. -/
  | invalidDirectory (path : String)
  /-- A catalog cannot be read. -/
  | unreadableCatalog (path : String)
  /-- A catalog is no YAML. -/
  | malformedCatalog (path : String)
  /-- A catalog does not map `filters` to a mapping. -/
  | noFilters (source : String)
  /-- A category of a catalog is no list. -/
  | categoryNotList (category : Value) (source : String)
  /-- An entry of a catalog is neither a text nor a mapping. -/
  | badEntry (entry : Value) (category source : String)
  /-- An entry of a catalog has keys that entries do not have. -/
  | unknownKeys (keys : List Value) (entry : Value) (category source : String)
  /-- An entry of a catalog has no name. -/
  | namelessEntry (entry : Value) (category source : String)
  /-- A configuration file cannot be read. -/
  | unreadableConfig (path : String)
  /-- A configuration file is no YAML. -/
  | malformedConfig (path : String)
  /-- A configuration file does not hold a mapping. -/
  | configNotMapping (path : String)
  /-- Settings do not have their form; each with what is wrong. -/
  | invalidConfig (problems : List (Value × String))
  /-- A file of steps does not hold a list. -/
  | stepsNotList (path : String)
  /-- A step is neither a name nor a mapping of one name. -/
  | badStep (step : Value) (path : String)

/-- A failure without a message. -/
inductive Fault where
  /-- A value that was left out has no notation. -/
  | noText
  /-- A scalar has the look of its type and no value in it. -/
  | badScalar
  /-- A number is too large for its format. -/
  | tooLarge
  /-- A value of this kind cannot be used here. -/
  | wrongKind
  /-- A parameter is neither a token nor a ready one. -/
  | notAToken
  /-- A name with an underscore in front is not looked up. -/
  | hiddenName
  /-- A document is no YAML. -/
  | malformed
  /-- A file cannot be read or written. -/
  | unreadable
  /-- A word of a fixed list is not in it. -/
  | unknownWord
  /-- A scalar that must have a character has none. -/
  | emptyScalar
  /-- A whole number is to be written that has too many digits. -/
  | tooManyDigits
  /-- A file does not hold text. -/
  | undecodable
  /-- The null character stands in the path of a file that is opened. -/
  | nullInPath
  /-- Something that nothing is said about here: half of a surrogate pair in a text, a node that holds
  itself, nesting without a sensible end, what every object has by itself, or what a log makes of a
  value that is no text. -/
  | outside
deriving DecidableEq, Repr

/-- A failure of either kind. -/
inductive Failure where
  | error (e : Error)
  | fault (f : Fault)

instance : Coe Error Failure := ⟨.error⟩
instance : Coe Fault Failure := ⟨.fault⟩

/-- What an operation gives that fails with a reported error or with a fault. -/
abbrev Outcome (α : Type) := Except Failure α

namespace Error

/-! ## Messages -/

/-- The message of an error. -/
def message : Error → String
  | tooManyArguments call _ => "too many arguments for " ++ call
  | ambiguousPosition _ fragment => "a skipped parameter makes " ++ fragment ++ " ambiguous!"
  | missingRequired _ _ => "a required argument is missing!"
  | missingFilename _ _ => "filename is a required argument!"
  | mismatch .variableName (.text s) _ => "bad syntax for variable name \"" ++ s ++ "\"!"
  | mismatch .variableName _ _ => "variable must be a string!"
  | mismatch .color value _ => "bad color \"" ++ value.shown ++ "\"!"
  | mismatch expected value _ => "expected " ++ expected.words ++ ", got \"" ++ value.shown ++ "\""
  | notAllowed value allowed _ =>
    "bad type (" ++ value.shown ++ ")! allowed values: " ++ ",".intercalate allowed
  | unsupported value => "unsupported argument type " ++ value.kindName
  | secondPath _ _ => "only one path supported!"
  | alreadyRegistered name => "plugin " ++ name ++ " is already registered!"
  | reservedName name => "plugin name " ++ name ++ " is reserved!"
  | unknownName name => "no plugin named " ++ name ++ "!"
  | invalidPath _ => "Path contains invalid characters!"
  | notAFile path => path ++ " is not a file!"
  | unknownFileType path => path ++ " is of unknown type!"
  | invalidDirectory path => "invalid directory \"" ++ path ++ "\"!"
  | unreadableCatalog path => "cannot read catalog " ++ path
  | malformedCatalog path => "bad YAML in catalog " ++ path
  | noFilters source => "catalog " ++ source ++ " has no filters mapping"
  | categoryNotList category source =>
    "category " ++ category.shown ++ " in " ++ source ++ " must be a list"
  | badEntry entry _ source => "bad catalog entry " ++ entry.quoted ++ " in " ++ source
  | unknownKeys keys _ _ source => "unknown keys " ++ (Value.list keys).quoted ++ " in " ++ source
  | namelessEntry _ _ source => "catalog entry without a name in " ++ source
  | unreadableConfig path => "cannot read config file " ++ path
  | malformedConfig path => "bad YAML in config file " ++ path
  | configNotMapping path => "config file " ++ path ++ " must hold a mapping"
  | invalidConfig problems =>
    "invalid configuration (" ++
      "; ".intercalate (problems.map fun (field, problem) => field.shown ++ ": " ++ problem) ++ ")"
  | stepsNotList path => path ++ " must hold a list of steps"
  | badStep step path => "bad step " ++ step.quoted ++ " in " ++ path

/-- The values that the message of an error shows. -/
def shownValues : Error → List Value
  | mismatch .variableName _ _ => []
  | mismatch _ value _ => [value]
  | notAllowed value _ _ => [value]
  | categoryNotList category _ => [category]
  | badEntry entry _ _ => [entry]
  | unknownKeys keys _ _ _ => keys
  | invalidConfig problems => problems.map Prod.fst
  | badStep step _ => [step]
  | _ => []

/-- The failure with an error. Without a message there is no error to report. -/
def raise (e : Error) : Failure :=
  if Value.areShowable e.shownValues then .error e else .fault .tooManyDigits

/-- An error is raised as it is if the values in its message can be shown. -/
theorem raise_of_areShowable {e : Error} (shown : Value.areShowable e.shownValues = true) :
    e.raise = .error e :=
  if_pos shown

/-- An error whose message cannot be written is a fault. -/
theorem raise_of_not_areShowable {e : Error} (unshown : Value.areShowable e.shownValues = false) :
    e.raise = .fault .tooManyDigits :=
  if_neg (Bool.eq_false_iff.1 unshown)

/-- An error is raised as it is, or its message cannot be written. -/
theorem raise_cases (e : Error) : e.raise = .error e ∨ e.raise = .fault .tooManyDigits := by
  cases shown : Value.areShowable e.shownValues with
  | true => exact .inl (raise_of_areShowable shown)
  | false => exact .inr (raise_of_not_areShowable shown)

/-! ## Facts -/

/-- The value, the expectation and the modifier of a failed check. -/
def checkContext (value : Value) (expected : String) (modifier : Option String) :
    List (String × Value) := [
  ("value", value), ("expected", .text expected),
  ("modifier", (modifier.map Value.text).getD .null)]

/-- The facts that an error carries, by name. -/
def context : Error → List (String × Value)
  | tooManyArguments _ count => [("count", .int count)]
  | ambiguousPosition _ fragment => [("fragment", .text fragment)]
  | missingRequired _ position => [("position", .int position)]
  | missingFilename _ position => [("position", .int position)]
  | mismatch expected value modifier => checkContext value expected.words modifier
  | notAllowed value allowed modifier =>
    checkContext value (",".intercalate allowed) (some modifier)
  | unsupported value => checkContext value "bool, number, string or None" none
  | secondPath value modifier => [("value", value), ("modifier", .text modifier)]
  | alreadyRegistered name => [("name", .text name)]
  | reservedName name => [("name", .text name)]
  | unknownName name => [("name", .text name)]
  | invalidPath path => [("path", .text path)]
  | notAFile path => [("path", .text path)]
  | unknownFileType path => [("path", .text path)]
  | invalidDirectory path => [("path", .text path)]
  | unreadableCatalog path => [("path", .text path)]
  | malformedCatalog path => [("path", .text path)]
  | noFilters source => [("path", .text source)]
  | categoryNotList category _ => [("category", category)]
  | badEntry _ category _ => [("category", .text category)]
  | unknownKeys _ entry category _ => [("category", .text category), ("entry", entry)]
  | namelessEntry entry category _ => [("category", .text category), ("entry", entry)]
  | unreadableConfig path => [("path", .text path)]
  | malformedConfig path => [("path", .text path)]
  | configNotMapping path => [("path", .text path)]
  | invalidConfig problems => [("errors", .list (problems.map Prod.fst))]
  | stepsNotList _ => []
  | badStep _ _ => []

/-- The name of the call, for the errors about the shape of a call. -/
def callName? : Error → Option String
  | tooManyArguments call _ => some call
  | ambiguousPosition call _ => some call
  | missingRequired call _ => some call
  | missingFilename call _ => some call
  | _ => none

end Error

end FilterScript
