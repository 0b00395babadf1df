import FilterScript.CommandLine.Help
import FilterScript.Number.Numeral

/-!
# The words of a command line

A command line is an option for the configuration, a command, and its arguments. Options may be cut
short as long as they can be told apart, and carry their value in the same word or the next. Words
that begin with a dash are options unless they are negative numbers or hold a blank, and behind two
dashes all words are arguments.
-/

namespace FilterScript.CommandLine

/-! ## Words -/

/-- Whether a text is a negative number in digits, with a point behind or among them or not. -/
def isNegativeNumber (cs : List Char) : Bool :=
  let body := match cs with
    | '-' :: rest => if rest.getLast? = some '\n' then rest.dropLast else rest
    | _ => []
  let front := body.takeWhile Numeral.isDecimal
  match body.dropWhile Numeral.isDecimal with
  | [] => !front.isEmpty
  | '.' :: back => !back.isEmpty && back.all Numeral.isDecimal
  | _ => false

/-- Whether a word that is no known option is an argument. -/
def isArgument (word : String) : Bool :=
  let cs := word.toList
  cs.head? != some '-' || cs == ['-'] || isNegativeNumber cs || cs.contains ' '

/-- An option as it stands on a command line. -/
inductive Found where
  /-- The option, with its value if the word holds one. -/
  | option (value : Option String)
  /-- No such option. -/
  | none

/-- The texts before and behind the first equal sign. -/
def splitAtEquals (cs : List Char) : List Char × Option String :=
  match cs.dropWhile (· != '=') with
  | [] => (cs, none)
  | _ :: back => (cs.takeWhile (· != '='), some (String.ofList back))

/-- Looks for an option with a short and a long name in a word. The long name may be cut short, and
the short one may have its value right behind it. -/
def findOption (short long : List Char) (word : String) : Found :=
  let cs := word.toList
  let (name, value) := splitAtEquals cs
  if cs = short ∨ cs = long then .option none
  else if value.isSome ∧ (name = short ∨ name = long) then .option value
  else if ['-', '-'].isPrefixOf cs then
    if cs ≠ ['-', '-'] ∧ name.isPrefixOf long then .option value else .none
  else if short.isPrefixOf cs then .option (some (String.ofList (cs.drop short.length)))
  else .none

/-! ## Arguments of commands -/

/-- What is asked of the program. -/
inductive Command where
  /-- The help on the program. -/
  | help
  /-- The version. -/
  | version
  /-- The description of a signature. -/
  | describe (signature : String) (types : Option String)
  /-- The line of a call. -/
  | call (name : String) (args : List String)
  /-- The script of a file of steps. -/
  | render (file : String)
  /-- The filters. -/
  | list
deriving DecidableEq, Repr

/-- What a command line is read as. -/
inductive Parsed where
  /-- A command, with the configuration file if one is given. -/
  | run (config : Option String) (command : Command)
  /-- A question for the help on a command. -/
  | helpOn (name : String)
  /-- No proper command line. -/
  | usage
deriving DecidableEq, Repr

/-- Whether help may have letters behind it in the same word: the letter for help again or another
one, but no value. -/
def mayFollowHelp : List Char → Bool
  | [] => true
  | 'h' :: rest => mayFollowHelp rest
  | c :: _ => c != '-' && c != '='

/-- Whether a word asks for help, if it is an option. Neither form of the option takes a value. -/
def asksForHelp (word : String) : Option Bool :=
  let cs := word.toList
  match findOption ['-', 'h'] "--help".toList word with
  | .none => none
  | .option none => some true
  | .option (some _) => some (!(['-', '-'].isPrefixOf cs) && mayFollowHelp (cs.drop 2))

/-- The arguments of a command, or the first word that is none. -/
inductive Scanned where
  /-- The arguments, and how many come before two dashes that end the options. -/
  | arguments (words : List String) (before : Option Nat)
  /-- A word asks for help. -/
  | help
  /-- A word cannot stand there. -/
  | bad

/-- Goes through the words behind a command. Help is given whatever else is wrong with them.
`unknown` says whether there was an unknown option. -/
def scan (unknown : Bool) (done : List String) : List String → Scanned
  | [] => if unknown then .bad else .arguments done.reverse none
  | "--" :: rest => if unknown then .bad else .arguments (done.reverse ++ rest) (some done.length)
  | word :: rest =>
    match asksForHelp word with
    | some true => .help
    | some false => .bad
    | none =>
      if isArgument word then scan unknown (word :: done) rest else scan true done rest

/-- Arguments without the first two dashes among them, which end options once more if the first ones
stood at the argument before. -/
def dropDashes (before : Option Nat) (words : List String) : List String :=
  match before with
  | some n => if n ≤ 1 then words.erase "--" else words
  | none => words

/-- The command of a name with its arguments. -/
def commandOf (name : String) (words : List String) (before : Option Nat) : Option Command :=
  match name, words with
  | "help", [] => if before.isNone then some .help else none
  | "version", [] => if before.isNone then some .version else none
  | "list", [] => if before.isNone then some .list else none
  | "describe", signature :: more =>
    if more.length ≤ 1 then some (.describe signature (dropDashes before more).head?) else none
  | "call", filter :: args => some (.call filter (dropDashes before args))
  | "render", [file] => some (.render file)
  | _, _ => none

/-- Reads a command with its words. -/
def parseCommand (config : Option String) (unknown : Bool) (name : String) (words : List String) :
    Parsed :=
  if !(commands.map Prod.fst).contains name then .usage
  else
    match scan false [] words with
    | .help => .helpOn name
    | .bad => .usage
    | .arguments words before =>
      match commandOf name words before with
      | some command => if unknown then .usage else .run config command
      | none => .usage

/-- Reads a command line from a word on. `unknown` says whether there was an unknown option. -/
def parseFrom (config : Option String) (unknown : Bool) : List String → Parsed
  | [] => if unknown then .usage else .run config .help
  | "--" :: _ => .usage
  | word :: rest =>
    match findOption ['-', 'c'] "--config".toList word, rest with
    | .option (some value), rest => parseFrom (some value) unknown rest
    | .option none, value :: rest =>
      if value != "--" && isValue value then parseFrom (some value) unknown rest else .usage
    | .option none, [] => .usage
    | .none, rest =>
      if isArgument word then parseCommand config unknown word rest
      else parseFrom config true rest
where
  /-- Whether a word can be the value of the option before it. -/
  isValue (word : String) : Bool :=
    match findOption ['-', 'c'] "--config".toList word with
    | .none => isArgument word
    | .option _ => false

/-- Reads a command line. -/
def parse (words : List String) : Parsed :=
  parseFrom none false words

end FilterScript.CommandLine
