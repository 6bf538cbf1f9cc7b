import PocketShell.Machine.Mode
import PocketShell.Machine.Script.Condition
import PocketShell.Machine.Script.Field
import PocketShell.Machine.Script.Formatting
import PocketShell.Machine.Script.Process

/-!
# Commands of the shell itself

The commands that a script runs without executing a program, except those that run other
commands. Each sets the status.
-/

namespace PocketShell.Machine.Script

open Act

/-- Writes what a command has to say and sets the status. -/
def say (text : String) (status : Nat) : Act Unit := do
  if ← write 1 text then finish status
  else
    warn (((← process).command.getD "") ++ ": I/O error")
    finish 1

/-- The letters of one argument that options are in: the options, and whether the last of them
has its value in the next argument. -/
def optionLetters (plain valued : List Char) :
    List Char → Act (List (Char × String) × Bool)
  | [] => return ([], false)
  | c :: cs => do
    if valued.contains c then
      return ([(c, String.ofList cs)], cs.isEmpty)
    if !plain.contains c then fail ("Illegal option -" ++ String.singleton c)
    let (options, isOpen) ← optionLetters plain valued cs
    return ((c, "") :: options, isOpen)

/-- Takes the options in front of arguments: those with letters of `plain`, and those of
`valued`, which have a value. -/
def takeLetters (plain valued : List Char) :
    List String → Act (List (Char × String) × List String)
  | [] => return ([], [])
  | s :: rest => do
    match s.toList with
    | ['-', '-'] => return ([], rest)
    | '-' :: c :: cs =>
      let (options, isOpen) ← optionLetters plain valued (c :: cs)
      match isOpen, rest with
      | false, rest =>
        let (more, operands) ← takeLetters plain valued rest
        return (options ++ more, operands)
      | true, [] =>
        fail ("No arg for -" ++ String.singleton ((options.getLast?.map (·.1)).getD c) ++ " option")
      | true, value :: rest =>
        let (more, operands) ← takeLetters plain valued rest
        let last := (options.getLast?.map (·.1)).getD c
        return (options.dropLast ++ (last, value) :: more, operands)
    | _ => return ([], s :: rest)

/-- Takes the letters of options without values. -/
def takeFlags (letters : String) (arguments : List String) : Act (List Char × List String) := do
  let (options, operands) ← takeLetters letters.toList [] arguments
  return (options.map (·.1), operands)

/-- The number that an argument is, which has to have room in 31 bits. -/
def numberArgument (s : String) : Act Nat :=
  match Condition.number s with
  | .ok n => if 0 ≤ n && n < Nat.pow 2 31 then return n.toNat else fail ("Illegal number: " ++ s)
  | .error complaint => fail complaint

/-- The rest of a text that is put between quotes. Single quotes in it stand between double ones,
anything else between single ones. -/
def quotedFrom : (isInDouble : Bool) → List Char → List Char
  | isInDouble, [] => [if isInDouble then '"' else '\'']
  | true, '\'' :: cs => '\'' :: quotedFrom true cs
  | true, c :: cs => '"' :: '\'' :: c :: quotedFrom false cs
  | false, '\'' :: cs => '\'' :: '"' :: '\'' :: quotedFrom true cs
  | false, c :: cs => c :: quotedFrom false cs

/-- A text between quotes, which starts with a single one. -/
def singleQuoted (s : String) : String := String.ofList ('\'' :: quotedFrom false s.toList)

/-- The signal that a text names by its number or its name. Signal 0 is the end of a script. -/
def signal? (s : String) : Option Nat :=
  if !s.isEmpty && s.toList.all Char.isDigit then
    let n := decimal s.toList
    if n ≤ Signal.last then some n else none
  else if s.toUpper = "EXIT" then some 0
  else Signal.named? s

/-- What `kill` is for. -/
def killUsage : String :=
  "Usage: kill [-s sigspec | -signum | -sigspec] [pid | job]... or\nkill -l [exitstatus]"

/-- The job that a text names: the current one, the one before, or one by its place. No job is
known by its command, so that a question mark means any. -/
def findJob (s : String) : Act Job := do
  let jobs := (← get).jobs
  let absence := "No such job: " ++ s
  let (job?, complaint) : Option Job × String :=
    match s.toList with
    | ['%'] | ['%', '%'] | ['%', '+'] => (jobs.head?, "No current job")
    | ['%', '-'] => (jobs.tail.head?, "No previous job")
    | ['%', '?'] =>
      match jobs with
      | [] => (none, absence)
      | [j] => (some j, absence)
      | _ => (none, s ++ ": ambiguous")
    | '%' :: cs =>
      (if cs.all Char.isDigit then jobs.find? (·.place = decimal cs) else none, absence)
    | _ => (none, absence)
  match job? with
  | some j => return j
  | none => fail complaint

/-- Sends a signal to processes. -/
def sendAll (signal : Nat) (targets : List String) : Act Unit := do
  let mut status := 0
  for target in targets do
    -- without job control, no group of processes has the number of a job
    let n? ←
      if target.startsWith "%" then do
        let _ ← findJob target
        pure none
      else if target.startsWith "-" then do
        let _ ← numberArgument (String.ofList target.toList.tail)
        pure none
      else some <$> numberArgument target
    let sys ← system
    match (n?.map (sys.send · signal)).getD (.error .noProcess) with
    | .ok sys => setSystem sys
    | .error e =>
      warn (e.message ++ "\n")
      status := 1
  finish status

/-- Names the signals. -/
def listSignals : List String → Act Unit
  | [] => say ("0\n" ++ String.join ((List.range Signal.last).map fun n =>
      Signal.name (n + 1) ++ "\n")) 0
  | s :: _ => do
    let n ← numberArgument s
    let n := if 128 < n then n - 128 else n
    if 0 < n && n ≤ Signal.last then say (Signal.name n ++ "\n") 0
    else fail ("invalid signal number or exit status: " ++ s)

/-- Sends a signal. -/
def kill (arguments : List String) : Act Unit := do
  let first := arguments.headD ""
  match if first.startsWith "-" then signal? (first.drop 1).toString else none with
  | some n => if arguments.length < 2 then fail killUsage else sendAll n arguments.tail
  | none =>
    let (options, operands) ← takeLetters ['l'] ['s'] arguments
    let asked ← options.mapM fun (c, name) => do
      if c == 'l' then return none
      match signal? name with
      | some n => return some n
      | none => fail ("invalid signal number or name: " ++ name)
    let isList := options.any (·.1 == 'l')
    let signal? := (asked.filterMap id).getLast?
    if isList then
      if signal?.isSome && !operands.isEmpty then fail killUsage else listSignals operands
    else if operands.isEmpty then fail killUsage
    else sendAll (signal?.getD 15) operands

/-- The plans for signals, as commands that make them. -/
def planLines (p : Process) : String :=
  let names := ("EXIT" :: (List.range Signal.last).map fun n => Signal.name (n + 1))
  String.join (names.zipIdx.filterMap fun (name, n) =>
    (p.plans.lookup n).map fun plan => "trap -- " ++ singleQuoted plan ++ " " ++ name ++ "\n")

/-- Makes plans for signals. -/
def planFor (plan : Option String) : List String → Act Unit
  | [] => finish 0
  | s :: rest =>
    match signal? s with
    | none => do
      report ("trap: " ++ s ++ ": bad trap")
      finish 1
    | some n => do
      change fun p =>
        { p with plans := (plan.toList.map (n, ·)) ++ p.plans.filter (·.1 ≠ n) }
      planFor plan rest

/-- Makes plans for signals, or shows them. -/
def trap (arguments : List String) : Act Unit := do
  let (_, arguments) ← takeFlags "" arguments
  match arguments with
  | [] => say (planLines (← process)) 0
  | [s] => planFor none [s]
  | action :: names =>
    if action = "-" then planFor none names
    else if !action.isEmpty && action.toList.all Char.isDigit then planFor none arguments
    else planFor (some action) names

/-- The steps of a path from the root, those that go up carried out. -/
def logicalSteps (steps : List String) : List String :=
  (steps.foldl (fun done s =>
    if s = "" || s = "." then done else if s = ".." then done.tail else s :: done) []).reverse

/-- A path from the root without steps that stay or go up. Two slashes at its start, but not
more, are kept. -/
def logicalPath (directory path : String) : String :=
  let whole := if path.startsWith "/" then path else directory ++ "/" ++ path
  let root := if whole.startsWith "//" && !whole.startsWith "///" then "//" else "/"
  root ++ "/".intercalate (logicalSteps (whole.splitOn "/"))

/-- Sets a variable that programs are to see. -/
def setExported (name value : String) : Act Unit :=
  change fun p => p.putVariable name (some ⟨some value, true, p.isReadOnly name⟩)

/-- Goes to a directory, and tells whether that could be done. -/
def goTo (path : String) (isPhysical : Bool) : Act Bool := do
  let p ← process
  let isUnknown := isPhysical || (p.directory.isEmpty && !path.startsWith "/")
  let target := if isUnknown then path else logicalPath p.directory path
  let files := (← system).files
  match files.find (← here) (toBytes target) with
  | .ok (loc, node) =>
    if node.isDirectory && node.permits .execute then
      let found := p.found.map fun (name, f) => (name, { f with isStale := true })
      change fun p => { p with place := (files.number? loc).getD p.place, found }
      if isUnknown then
        let directory ← physicalDirectory
        change fun p => { p with directory, physical := some directory }
      else change fun p => { p with directory := target, physical := none }
      setExported "OLDPWD" p.directory
      setExported "PWD" (← process).directory
      return true
    else return false
  | .error _ => return false

/-- The first directory of a search path in which a directory stands. -/
def onPath? (p : Process) (files : FileSystem) (here : Location) (path : String) :
    Option (String × Bool) :=
  let isPlain := !path.startsWith "/" && !(["", ".", ".."].contains ((path.splitOn "/").headD ""))
  match p.look "CDPATH" with
  | some directories =>
    if !isPlain then none
    else
      (directories.splitOn ":").findSome? fun d =>
        let target := if d.isEmpty then path else d ++ "/" ++ path
        match files.find here (toBytes target) with
        | .ok (_, node) => if node.isDirectory then some (target, !d.isEmpty) else none
        | .error _ => none
  | none => none

/-- Changes the current directory. -/
def changeDirectory (arguments : List String) : Act Unit := do
  let (options, arguments) ← takeFlags "LP" arguments
  let isPhysical := options.getLast? = some 'P'
  let p ← process
  let (path, isShown) :=
    match arguments with
    | [] => ((p.look "HOME").getD "", false)
    | "-" :: _ => ((p.look "OLDPWD").getD "", true)
    | path :: _ => (path, false)
  let path := if path.isEmpty then "." else path
  let (target, isShown) :=
    match onPath? p (← system).files (← here) path with
    | some (target, isFound) => (target, isShown || isFound)
    | none => (path, isShown)
  if ← goTo target isPhysical then
    if isShown then say ((← process).directory ++ "\n") 0 else finish 0
  else fail ("can't cd to " ++ path)

/-- Tells the path of the current directory. -/
def tellDirectory (arguments : List String) : Act Unit := do
  let (options, _) ← takeFlags "LP" arguments
  if options.getLast? = some 'P' then
    if (← process).physical.isNone then
      let path ← physicalDirectory
      change fun p => { p with physical := if path.isEmpty then none else some path }
      setExported "PWD" (← process).directory
    say ((← process).physical.getD "" ++ "\n") 0
  else say ((← process).directory ++ "\n") 0

/-- The characters of a line that was read, those behind a backslash as quoted. A backslash in
front of the end of the line joins the next one, which is asked for by the flag. -/
def lineGlyphs : List Char → List Glyph × Bool
  | [] => ([], false)
  | ['\\'] => ([], true)
  | '\\' :: c :: rest =>
    let (gs, joins) := lineGlyphs rest
    (.char c true false :: gs, joins)
  | c :: rest =>
    let (gs, joins) := lineGlyphs rest
    (.char c false true :: gs, joins)

/-- Reads a line from the input, and tells whether it had an end. -/
def readLine : Act (List Char × Bool) := do
  match ← stream? 0 with
  | none => return ([], false)
  | some n =>
    match (← system).read n 1 (System.linesLength 1) with
    | .error _ => return ([], false)
    | .ok (sys, bytes) =>
      setSystem sys
      let cs := (ofBytes bytes).filter (· != '\x00')
      return (cs.filter (· != '\n'), bytes.getLast? = some 0x0A)

/-- Reads a line with those that are joined to it, at most `bound` of them. -/
def readJoined (isRaw : Bool) : (bound : Nat) → Act (List Glyph × Bool)
  | 0 => return ([], false)
  | bound + 1 => do
    let (cs, isWhole) ← readLine
    if isRaw then return (Glyph.ofText false true (String.ofList cs), isWhole)
    let (gs, joins) := lineGlyphs cs
    if joins && isWhole then
      let (more, isWhole) ← readJoined isRaw bound
      return (gs ++ more, isWhole)
    return (gs, isWhole)

/-- The name and the value of an argument that sets a variable. -/
def assignment (s : String) : String × Option String :=
  match s.splitOn "=" with
  | name :: value@(_ :: _) => (name, some ("=".intercalate value))
  | _ => (s, none)

/-- The name in front of an equals sign, which has to be one that a variable can have. -/
def checkedName (s : String) : Act String := do
  let name := (assignment s).1
  if !isName name then fail (name ++ ": bad variable name")
  return name

/-- Reads a line into variables. No prompt is written, as nobody sits at the input. -/
def readInto (arguments : List String) : Act Unit := do
  let (options, names) ← takeLetters ['r'] ['p'] arguments
  let isRaw := options.any (·.1 == 'r')
  if names.isEmpty then fail "arg count"
  let (gs, isWhole) ← readJoined isRaw 10000
  let values := (Glyph.fieldsUpTo (← process).separators names.length gs).map Glyph.text
  for (name, i) in names.zipIdx do set (← checkedName name) (values.getD i "")
  finish (if isWhole then 0 else 1)

/-- Variables as commands that set them, sorted. -/
def variableLines (start : String) (p : Process) (isShown : Variable → Bool) : String :=
  let shown := p.bindings.filter fun (_, v) => isShown v
  let lines := shown.map fun (name, v) =>
    start ++ name ++ ((v.value.map fun s => "=" ++ singleQuoted s).getD "")
  String.join ((lines.mergeSort fun a b => a ≤ b).map (· ++ "\n"))

/-- Marks variables and sets those that are given a value. -/
def markVariables (mark : Variable → Variable) : List String → Act Unit
  | [] => finish 0
  | s :: rest => do
    let (name, value) := assignment s
    if !isName name then fail (name ++ ": bad variable name")
    if let some value := value then set name value
    change fun p =>
      p.putVariable name (some (mark ((p.bindings.lookup name).getD ⟨none, false, false⟩)))
    markVariables mark rest

/-- Marks variables, or shows those that are marked. -/
def declare (name : String) (isMarked : Variable → Bool) (mark : Variable → Variable)
    (arguments : List String) : Act Unit := do
  let lines := variableLines (name ++ " ") (← process) isMarked
  match arguments with
  | [] | ["--"] => say lines 0
  | "--" :: arguments => markVariables mark arguments
  | first :: _ =>
    match first.toList with
    | '-' :: 'p' :: _ => say lines 0
    | '-' :: c :: _ => fail ("Illegal option -" ++ String.singleton c)
    | _ => markVariables mark arguments

/-- Makes variables local to the function that runs, or the options, which a hyphen stands
for. -/
def makeLocal : List String → Act Unit
  | [] => finish 0
  | s :: rest => do
    match (← process).hidden with
    | [] => fail "not in a function"
    | frame :: frames =>
      let p ← process
      if s = "-" then
        if frame.options.isNone then
          change fun p =>
            { p with hidden := { frame with options := some p.options } :: frames }
      else
        let (name, value) := assignment s
        -- a bad name with a value is refused only where the function ends
        if !isName name && value.isNone then fail (name ++ ": bad variable name")
        if (frame.bindings.lookup name).isNone then
          let bindings := (name, p.bindings.lookup name) :: frame.bindings
          change fun p => { p with hidden := { frame with bindings } :: frames }
        match value with
        | some value =>
          if p.isReadOnly name then fail (name ++ ": is read only")
          set name value
        | none => pure ()
      makeLocal rest

/-- Removes variables or functions. -/
def unset (arguments : List String) : Act Unit := do
  let (options, names) ← takeFlags "fv" arguments
  for s in names do
    if options.getLast? = some 'f' then
      change fun p => { p with functions := p.functions.filter (·.1 ≠ s) }
    else
      let name ← checkedName s
      if (← process).isReadOnly name then fail (name ++ ": is read only")
      if name = "OPTIND" then fail "Illegal number: "
      change fun p => p.putVariable name none
      if name = "PATH" then change fun p => { p with found := [] }
  finish 0

/-! ## Options -/

/-- Sets or clears an option by its letter. -/
def setOption (isOn : Bool) (c : Char) : Act Unit := do
  if !(optionNames.any (·.1 == c)) then fail ("Illegal option -" ++ String.singleton c)
  change fun p =>
    { p with options := (if isOn then [c] else []) ++ p.options.filter (· != c) }

/-- The options and whether they are set. -/
def optionLines (p : Process) : String :=
  "Current option settings\n" ++ String.join (optionNames.map fun (c, name) =>
    name ++ String.ofList (List.replicate (16 - name.length) ' ') ++
      (if p.has c then "on" else "off") ++ "\n")

/-- The options as commands that set and clear them. -/
def optionCommands (p : Process) : String :=
  String.join (optionNames.map fun (c, name) =>
    "set " ++ (if p.has c then "-o " else "+o ") ++ name ++ "\n")

/-- Shows the options, in the way that a sign asks for. -/
def showOptions (sign : Char) : Act Unit := do
  let p ← process
  say (if sign == '-' then optionLines p else optionCommands p) 0

/-- Sets or clears an option by its name. -/
def setNamedOption (sign : Char) (name : String) : Act Unit :=
  match optionNames.find? (·.2 = name) with
  | some (c, _) => setOption (sign == '-') c
  | none => fail ("Illegal option -o " ++ name)

/-- Sets or clears options by letters, behind some of which a name stands in the next argument.
The answer is the arguments that are left. -/
def takeOptionLetters (sign : Char) : List Char → List String → Act (List String)
  | [], rest => return rest
  | 'o' :: letters, rest => do
    match rest with
    | name :: _ => setNamedOption sign name
    | [] => showOptions sign
    takeOptionLetters sign letters rest.tail
  | c :: letters, rest => do
    setOption (sign == '-') c
    takeOptionLetters sign letters rest

/-- Takes the options in front of arguments. The answer is what follows them, and whether that
takes the place of the arguments of the script even if it is empty. `fuel` bounds how many
arguments there are. -/
def takeOptions : (fuel : Nat) → List String → Act (List String × Bool)
  | 0, rest => return (rest, true)
  | _, [] => return ([], false)
  | fuel + 1, s :: rest => do
    match s.toList with
    | ['-', '-'] => return (rest, true)
    | ['-'] =>
      setOption false 'x'
      setOption false 'v'
      return (rest, !rest.isEmpty)
    | sign :: letters =>
      if !(sign == '-' || sign == '+') then return (s :: rest, true)
      takeOptions fuel (← takeOptionLetters sign letters rest)
    | [] => return (s :: rest, true)

/-- Gives up what the options ask for that only a terminal can do. -/
def checkTerminal : Act Unit := do
  if (← process).has 'm' then
    warn "can't access tty; job control turned off"
    change fun p => { p with options := p.options.filter (· != 'm') }

/-- Sets options and the arguments of the script. -/
def setAll (arguments : List String) : Act Unit := do
  if arguments.isEmpty then say (variableLines "" (← process) (·.value.isSome)) 0
  else
    let (rest, replaces) ← takeOptions (arguments.length + 1) arguments
    checkTerminal
    if replaces then change fun p =>
      { p with arguments := rest, optionIndex := 1, optionOffset := none }
    finish 0

/-- Drops arguments of the script. -/
def shift (arguments : List String) : Act Unit := do
  let n ←
    match arguments with
    | [] => pure 1
    | s :: _ => numberArgument s
  let p ← process
  if p.arguments.length < n then fail "can't shift that many"
  change fun p =>
    { p with arguments := p.arguments.drop n, optionIndex := 1, optionOffset := none }
  finish 0

/-- Shows or sets which permissions new nodes do not get. -/
def setMask (arguments : List String) : Act Unit := do
  let (options, operands) ← takeFlags "S" arguments
  let mask := (← process).mask
  match operands with
  | [] =>
    let text :=
      if options.isEmpty then Mode.octalText mask else Mode.symbols (Mode.plain ^^^ mask)
    say (text ++ "\n") 0
  | s :: _ =>
    let mask ←
      if s.toList.head?.any Char.isDigit then
        match Mode.ofOctal? s with
        | some n => pure n
        | none => fail ("Illegal number: " ++ s)
      else
        match Mode.changed? .mask 0 (Mode.plain ^^^ mask) false s with
        | some mode => pure (Mode.plain ^^^ (mode &&& Mode.plain))
        | none => fail ("Illegal mode: " ++ s)
    change fun p => { p with mask := mask &&& Mode.plain }
    finish 0

/-! ## Taking options apart -/

/-- How far options have been taken. -/
structure OptionPlace where
  /-- The number of the next argument. -/
  index : Nat
  /-- How much of the argument in front of it has been taken, if there may be more. -/
  offset : Option Nat

/-- What taking an option comes to: the letter that the variable is set to, the value, which is
`none` if there is none to be seen, a complaint, and how far options have been taken then. -/
structure TakenOption where
  letter : Char
  value : Option String
  complaint : Option String
  place : OptionPlace
  isAtEnd : Bool

/-- Takes the next option from arguments. Letters that a colon follows have a value. A colon in
front of the letters keeps complaints back. -/
def takeOption (letters : List Char) (arguments : List String) (place : OptionPlace) :
    TakenOption :=
  let isSilent := letters.head? = some ':'
  let under : Option (List Char) := place.offset.bind fun n =>
    let rest := (arguments.getD (place.index - 2) "").toList.drop n
    if place.index < 2 || rest.isEmpty then none else some rest
  let beyond (index : Nat) : TakenOption := ⟨'?', none, none, ⟨index, none⟩, true⟩
  let inWord (offset : Nat) (index : Nat) : List Char → TakenOption
    | [] => beyond index
    | c :: rest =>
      let text := String.singleton c
      let after : OptionPlace := ⟨index, some (offset + 1)⟩
      match if c == ':' && !isSilent then [] else letters.dropWhile (· != c) with
      | [] =>
        if isSilent then ⟨'?', some text, none, after, false⟩
        else ⟨'?', none, some ("Illegal option -" ++ text), after, false⟩
      | _ :: ':' :: _ =>
        match rest, arguments[index - 1]? with
        | _ :: _, _ => ⟨c, some (String.ofList rest), none, ⟨index, none⟩, false⟩
        | [], some value => ⟨c, some value, none, ⟨index + 1, none⟩, false⟩
        | [], none =>
          if isSilent then ⟨':', some text, none, ⟨index, none⟩, false⟩
          else ⟨'?', none, some ("No arg for -" ++ text ++ " option"), ⟨index, none⟩, false⟩
      | _ => ⟨c, some "", none, after, false⟩
  match under, arguments[place.index - 1]? with
  | some rest, _ => inWord (place.offset.getD 0) place.index rest
  | none, some word =>
    match word.toList with
    | '-' :: '-' :: [] => beyond (place.index + 1)
    | '-' :: c :: rest => inWord 1 (place.index + 1) (c :: rest)
    | _ => beyond place.index
  | none, none => beyond place.index

/-- Takes the next option from arguments and sets variables to what was found. -/
def nextOption (letters : List Char) (name : String) (arguments : List String) : Act Unit := do
  let p ← process
  let isInRange := 1 ≤ p.optionIndex && p.optionIndex ≤ arguments.length + 1
  let place : OptionPlace := if isInRange then ⟨p.optionIndex, p.optionOffset⟩ else ⟨1, none⟩
  let taken := takeOption letters arguments place
  -- if a variable cannot be set, the next option is the first again
  change fun p => { p with optionIndex := 0, optionOffset := none }
  if let some complaint := taken.complaint then report complaint
  if !taken.isAtEnd then
    match taken.value with
    | some value => set "OPTARG" value
    | none => change fun p => p.putVariable "OPTARG" none
  change fun p => p.set "OPTIND" (toString taken.place.index)
  set (← checkedName name) (String.singleton taken.letter)
  change fun p => { p with optionIndex := taken.place.index, optionOffset := taken.place.offset }
  finish (if taken.isAtEnd then 1 else 0)

/-- Takes options one by one. -/
def getopts : List String → Act Unit
  | letters :: name :: arguments => do
    let own := (← process).arguments
    nextOption letters.toList name (if arguments.isEmpty then own else arguments)
  | _ => fail "Usage: getopts optstring var [arg...]"

/-! ## Aliases -/

/-- The name that an argument of `alias` gives a meaning, and that meaning. -/
def aliasSetting? (s : String) : Option (String × String) :=
  match s.toList with
  | [] => none
  | c :: cs =>
    match cs.dropWhile (· != '=') with
    | [] => none
    | _ :: value =>
      some (String.ofList (c :: cs.takeWhile (· != '=')), String.ofList value)

/-- An alias as it is shown. -/
def aliasLine (name value : String) : String := name ++ "=" ++ singleQuoted value ++ "\n"

/-- Gives names a meaning as aliases, or shows that. -/
def setAliases (arguments : List String) : Act Unit := do
  if arguments.isEmpty then
    let lines := (Process.inRows 39 (← process).aliases).map fun (name, value) => aliasLine name value
    say (String.join lines) 0
  else
    let mut status := 0
    for s in arguments do
      let aliases := (← process).aliases
      match aliasSetting? s with
      | some (name, value) =>
        let isKnown := (aliases.lookup name).isSome
        let changed :=
          if isKnown then aliases.map fun (n, v) => (n, if n = name then value else v)
          else aliases ++ [(name, value)]
        change fun p => { p with aliases := changed }
      | none =>
        match aliases.lookup s with
        | some value =>
          let _ ← write 1 (aliasLine s value)
        | none =>
          report ("alias: " ++ s ++ " not found")
          status := 1
    finish status

/-- Takes the meaning as aliases from names. -/
def removeAliases (arguments : List String) : Act Unit := do
  if (arguments.headD "").startsWith "-a" then
    change fun p => { p with aliases := [] }
    finish 0
  else
    let (_, names) ← takeFlags "a" arguments
    let mut status := 0
    for name in names do
      if ((← process).aliases.lookup name).isNone then
        report ("unalias: " ++ name ++ " not found")
        status := 1
      change fun p => { p with aliases := p.aliases.filter (·.1 ≠ name) }
    finish status

/-! ## Writing and testing -/

/-- What is said of an argument that should be a number. -/
def numberFaultText : NumberFault → String
  | .missing => "expected numeric value"
  | .incomplete => "not completely converted"
  | .outOfRange => "Numerical result out of range"

/-- Writes formatted text. -/
def printf (arguments : List String) : Act Unit := do
  let (_, arguments) ← takeFlags "" arguments
  match arguments with
  | [] => fail "usage: printf format [arg ...]"
  | format :: arguments =>
    let f := formatted format arguments
    for (argument, fault) in f.complaints.reverse do
      warn (argument ++ ": " ++ numberFaultText fault)
    match f.ending with
    | some (some fault) =>
      let _ ← write 1 f.text
      fail fault
    | _ => say f.text (if f.complaints.isEmpty then 0 else 1)

/-- Tests a condition. -/
def test (arguments : List String) : Act Unit := do
  let inquiry : Inquiry := ⟨(← system).files, ← here⟩
  match Condition.value inquiry (arguments.length + 1) arguments with
  | .ok holds => finish (if holds then 0 else 1)
  | .error complaint =>
    warn complaint
    finish 2

/-- Leaves loops by a flow. -/
def leaveLoops (flow : Nat → Flow) (arguments : List String) : Act Unit := do
  let n ←
    match arguments with
    | [] => pure 1
    | s :: _ => numberArgument s
  if n = 0 then fail ("Illegal number: " ++ arguments.headD "")
  finish 0
  let loops := (← process).loops
  if loops ≠ 0 then throw (flow (min n loops))

/-- The commands of the shell itself, except those that run other commands. -/
def builtin? : String → Option (List String → Act Unit)
  | ":" | "true" => some fun _ => finish 0
  | "false" => some fun _ => finish 1
  | "echo" => some fun arguments => say (echoText arguments) 0
  | "printf" => some printf
  | "test" => some test
  | "[" => some fun arguments =>
    if (arguments.getLastD "").startsWith "]" then test arguments.dropLast else fail "missing ]"
  | "cd" | "chdir" => some changeDirectory
  | "pwd" => some tellDirectory
  | "read" => some readInto
  | "kill" => some kill
  | "trap" => some trap
  | "set" => some setAll
  | "shift" => some shift
  | "export" => some (declare "export" (·.isExported) fun v => { v with isExported := true })
  | "readonly" => some (declare "readonly" (·.isReadOnly) fun v => { v with isReadOnly := true })
  | "local" => some fun arguments => do
    if (← process).hidden.isEmpty then fail "not in a function"
    makeLocal arguments
  | "unset" => some unset
  | "umask" => some setMask
  | "getopts" => some getopts
  | "alias" => some setAliases
  | "unalias" => some removeAliases
  | "exit" => some fun arguments => do
    let p ← process
    let asked ← arguments.head?.mapM numberArgument
    throw (.leaves ((asked.map (· % 256)).getD (p.savedStatus.getD p.status)))
  | "return" => some fun arguments => do
    if let some s := arguments.head? then finish ((← numberArgument s) % 256)
    throw .returns
  | "break" => some (leaveLoops .breaks)
  | "continue" => some (leaveLoops .continues)
  | "times" => some fun _ => say "0m0.000000s 0m0.000000s\n0m0.000000s 0m0.000000s\n" 0
  | _ => none

end PocketShell.Machine.Script
