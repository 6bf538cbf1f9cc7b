import PocketShell.LogLevel
import PocketShell.Text.Paragraph

/-!
# Options

The arguments that the program is started with. An option may be shortened as long as one
option only starts that way, and its value follows it or is attached with an equals sign. What
is found first from left to right is decided first, so a request for help hides what is wrong
behind it; arguments that nothing accounts for are told at the end.

## Implementation notes

Releases of the option parser differ in two corner cases. This is the parser of release 3.11.2:
there, and up to release 3.11.8, two hyphens that are attached to an option are taken away
(`Reading.attachLevel`), and text behind `-h` is read as more options (`unwanted`). Later releases
keep the hyphens as the value and read the text otherwise.
-/

namespace PocketShell

open Text (quoted)

/-- The options. -/
inductive Flag where
  | help
  | noBanner
  | logLevel
  deriving DecidableEq, Repr

/-- The spellings of the options, in the order of their declaration. -/
def Flag.spellings : List (String × Flag) :=
  [("-h", .help), ("--help", .help), ("--no-banner", .noBanner), ("--log-level", .logLevel)]

/-- An option with all its spellings. -/
def Flag.title : Flag → String
  | help => "-h/--help"
  | noBanner => "--no-banner"
  | logLevel => "--log-level"

/-- What is wrong with the arguments. -/
inductive UsageError where
  | ambiguous (argument : String)
  | unwantedValue (flag : Flag) (value : String)
  | missingValue (flag : Flag)
  | noLevel (value : String)
  | unrecognized (arguments : List String)
  deriving DecidableEq, Repr

namespace UsageError

/-- A complaint about an option. -/
def about (flag : Flag) (complaint : String) : String :=
  "argument " ++ flag.title ++ ": " ++ complaint

/-- The spellings that a text with two hyphens could be short for. -/
def longSpellings : List String :=
  (Flag.spellings.map (·.1)).filter fun s => s.toList.take 2 = ['-', '-']

/-- The wording of an error. -/
def message : UsageError → String
  | ambiguous argument =>
    "ambiguous option: " ++ argument ++ " could match " ++ ", ".intercalate longSpellings
  | unwantedValue flag value => about flag ("ignored explicit argument " ++ quoted value)
  | missingValue flag => about flag "expected one argument"
  | noLevel value => about .logLevel (LogLevel.refusal value)
  | unrecognized arguments => "unrecognized arguments: " ++ " ".intercalate arguments

end UsageError

namespace Options

/-- An argument by its form alone. -/
inductive Argument where
  /-- Not an option, and so perhaps the value of one. -/
  | plain
  /-- The two hyphens behind which there are no options. -/
  | divider
  | option (flag : Flag) (isShort : Bool) (attached : Option String)
  /-- It looks like an option and is none. -/
  | unknown
  deriving DecidableEq, Repr

/-- A hyphen and a number, which is no option. A line feed at the end does not count. -/
def isNegativeNumber (cs : List Char) : Bool :=
  match cs with
  | '-' :: digits =>
    let digits := if digits.getLast? = some '\n' then digits.dropLast else digits
    match digits.dropWhile Text.isDecimal with
    | [] => !digits.isEmpty
    | '.' :: fraction => !fraction.isEmpty && fraction.all Text.isDecimal
    | _ => false
  | _ => false

/-- What stands before the first equals sign, and what stands behind it. -/
def splitValue (cs : List Char) : List Char × Option (List Char) :=
  match cs.dropWhile (· != '=') with
  | [] => (cs, none)
  | _ :: value => (cs.takeWhile (· != '='), some value)

/-- The option of a spelling. -/
def spelled? (cs : List Char) : Option Flag := Flag.spellings.lookup (String.ofList cs)

/-- The long options that a text is a beginning of. -/
def startedBy (cs : List Char) : List Flag :=
  (Flag.spellings.filter fun (s, _) => cs.isPrefixOf s.toList).map (·.2)

/-- Whether a spelling is one of a single hyphen. -/
def isShort (cs : List Char) : Bool := cs.length = 2

/-- What an argument with a hyphen in front is if no option fits it: a value, if it is a
negative number or has a space in it. -/
def leftOver (cs : List Char) : Argument :=
  if isNegativeNumber cs || cs.contains ' ' then .plain else .unknown

/-- The form of an argument that is not the divider. -/
def classify (argument : String) : Except UsageError Argument :=
  let cs := argument.toList
  let (name, value) := splitValue cs
  let attached := value.map String.ofList
  match cs with
  | [] | ['-'] => .ok .plain
  | '-' :: '-' :: _ =>
    match spelled? cs, spelled? name, startedBy name with
    | some flag, _, _ => .ok (.option flag false none)
    | none, some flag, _ => .ok (.option flag false attached)
    | none, none, [flag] => .ok (.option flag false attached)
    | none, none, [] => .ok (leftOver cs)
    | none, none, _ => .error (.ambiguous argument)
  | '-' :: c :: rest =>
    match spelled? cs, spelled? name, spelled? ['-', c] with
    | some flag, _, _ => .ok (.option flag true none)
    | none, some flag, _ => .ok (.option flag true attached)
    | none, none, some flag => .ok (.option flag true (some (String.ofList rest)))
    | none, none, none => .ok (leftOver cs)
  | _ => .ok .plain

/-- The forms of all arguments. -/
def classifyAll : List String → Except UsageError (List (String × Argument))
  | [] => .ok []
  | "--" :: rest => .ok (("--", .divider) :: rest.map (·, .plain))
  | argument :: rest => do
    let form ← classify argument
    return (argument, form) :: (← classifyAll rest)

/-- What is known of the level: nothing yet, a level, or that an option took it away. -/
inductive LevelChoice where
  | unset
  | chosen (l : LogLevel)
  | lost
  deriving DecidableEq, Repr

/-- What the arguments ask for: help, a run of the shell, or a run with a level that is none,
for which the log cannot be set up. -/
inductive Request where
  | help
  | run (showsBanner : Bool) (level : LogLevel)
  | runWithoutLevel
  deriving DecidableEq, Repr

/-- What has been read of the arguments. -/
structure Reading where
  showsBanner : Bool
  level : LevelChoice
  unrecognized : List String
  deriving DecidableEq, Repr

/-- Before the first argument. -/
def Reading.start : Reading := ⟨true, .unset, []⟩

/-- Sets the level to what a value names. -/
def Reading.setLevel (r : Reading) (value : String) : Except UsageError Reading :=
  match LogLevel.named? value with
  | some l => .ok { r with level := .chosen l }
  | none => .error (.noLevel value)

/-- Sets the level to an attached value. Two hyphens are never a value, not even there, up to
release 3.11.8 of the parser. -/
def Reading.attachLevel (r : Reading) (value : String) : Except UsageError Reading :=
  if value = "--" then .ok { r with level := .lost } else r.setLevel value

/-- What is told of a value attached to an option that takes none. Behind a single hyphen this
release of the parser reads the value as more options, which all have to be the same. -/
def unwanted (flag : Flag) (isShort : Bool) (value : String) : Option UsageError :=
  if isShort && !value.isEmpty then
    match value.toList.dropWhile (spelled? ['-', ·] = some flag) with
    | [] => none
    | rest => some (.unwantedValue flag (String.ofList rest))
  else some (.unwantedValue flag value)

/-- Whether reading goes on or ends in a request for help. -/
inductive Progress where
  | on (r : Reading)
  | help
  deriving DecidableEq, Repr

/-- Carries out an option without a value of its own. -/
def Reading.take (r : Reading) : Flag → Progress
  | .help => .help
  | _ => .on { r with showsBanner := false }

/-- Reads the arguments from left to right. -/
def readAll : Reading → List (String × Argument) → Except UsageError Progress
  | r, [] => .ok (.on r)
  | r, (_, .option .logLevel _ (some value)) :: rest => do
    readAll (← r.attachLevel value) rest
  | r, (_, .option .logLevel _ none) :: (value, .plain) :: rest => do
    readAll (← r.setLevel value) rest
  | _, (_, .option .logLevel _ none) :: _ => .error (.missingValue .logLevel)
  | r, (_, .option flag short attached) :: rest =>
    match attached.bind (unwanted flag short) with
    | some e => .error e
    | none =>
      match r.take flag with
      | .help => .ok .help
      | .on r => readAll r rest
  | r, (argument, _) :: rest =>
    readAll { r with unrecognized := r.unrecognized ++ [argument] } rest

/-- The level that is set in the environment, if no option sets one. -/
def defaultLevel (environment : Option String) : String := environment.getD LogLevel.warning.name

/-- What is asked for when all arguments are read. -/
def finish (environment : Option String) (r : Reading) : Except UsageError Request := do
  let r ← if r.level = .unset then r.setLevel (defaultLevel environment) else .ok r
  if r.unrecognized ≠ [] then throw (.unrecognized r.unrecognized)
  match r.level with
  | .chosen l => return .run r.showsBanner l
  | _ => return .runWithoutLevel

/-- What the arguments ask for, given the level that is set in the environment. -/
def parse (environment : Option String) (arguments : List String) :
    Except UsageError Request := do
  match ← readAll .start (← classifyAll arguments) with
  | .help => return .help
  | .on r => finish environment r

/-- How the program is called. -/
def usage : String := "usage: minish [-h] [--no-banner] [--log-level LOG_LEVEL]\n"

/-- What the program says when its arguments are wrong. -/
def complaint (e : UsageError) : String := usage ++ "minish: error: " ++ e.message ++ "\n"

/-- The column in which the purposes of the options start, and how wide they are. -/
def purposeColumn : Nat := 24

/-- The width of the text in that column. -/
def purposeWidth : Nat := 54

/-- Spaces, tabs and line ends, a stretch of which is one space in a help text. -/
def isSpacing (c : Char) : Bool := c == ' ' || ('\t' ≤ c && c ≤ '\r')

/-- A text in which every stretch of spacing is one space. -/
def squeezed : List Char → List Char
  | [] => []
  | c :: cs =>
    if isSpacing c then
      match squeezed cs with
      | ' ' :: rest => ' ' :: rest
      | rest => ' ' :: rest
    else c :: squeezed cs

/-- The purpose of the option for the level. -/
def levelPurpose (environment : Option String) : String :=
  String.ofList (squeezed
    ("logging level for stderr diagnostics, one of " ++
      ", ".intercalate (LogLevel.all.map (·.name)) ++
      " (default: " ++ defaultLevel environment ++ ")").toList)

/-- The help text. -/
def helpText (environment : Option String) : String :=
  let margin := String.ofList (List.replicate purposeColumn ' ')
  usage ++
  "\n" ++
  "Minimal interactive shell.\n" ++
  "\n" ++
  "options:\n" ++
  "  -h, --help            show this help message and exit\n" ++
  "  --no-banner           do not print the startup banner\n" ++
  "  --log-level LOG_LEVEL\n" ++
  String.join ((Text.fill purposeWidth (levelPurpose environment)).map fun line =>
    margin ++ line ++ "\n")

end Options

end PocketShell
