import PocketShell.Launch
import PocketShell.Machine.Interpreter
import PocketShell.Machine.Number
import PocketShell.Machine.Script.WordReading
import PocketShell.Machine.SearchPath
import PocketShell.Machine.Utility.Request

/-!
# Utilities for programs

Those that run other programs in a changed environment, or wait.
-/

namespace PocketShell.Machine

open Script (toBytes)

namespace Utility

open Job

/-- Lines for an environment. -/
def environmentLines (ends : String) (environment : List (String × String)) : String :=
  String.join (environment.map fun (name, value) => name ++ "=" ++ value ++ ends)

/-- The mark behind every variable. -/
def variableEnd (r : Request) : String := if r.has '0' then "\x00" else "\n"

/-- Writes variables of the environment. -/
def printenvJob : Job Int := do
  let environment := (← call).environment
  match Request.take [.flag '0' ["null"]] true none (← arguments) with
  | .error complaint => misuseWith 2 complaint
  | .ok r =>
    match r.operands with
    | [] => sayOr 2 (environmentLines (variableEnd r) environment) 0
    | names =>
      let values := names.map fun name =>
        if name.toList.contains '=' then none else environment.lookup name
      sayOr 2 (String.join ((values.filterMap id).map (· ++ variableEnd r)))
        (if values.all (·.isSome) then 0 else 1)

/-- The options of `env`. -/
def envChoices : List Choice :=
  [.flag 'i' ["ignore-environment"], .flag '0' ["null"], .flag 'v' ["debug"],
   .withValue 'u' ["unset"], .withValue 'C' ["chdir"], .withValue 'S' ["split-string"]]

/-- How a text is taken apart: between words, in a word, or between quotation marks. -/
inductive Splitting where
  | between
  | word (cs : List Char)
  | quoted (mark : Char) (cs : List Char)
  /-- In the name of a variable, up to the brace that ends it. -/
  | naming (outer : Splitting)

/-- Puts a text behind what has been read of a word. -/
def Splitting.push (text : List Char) : Splitting → Splitting
  | between => word text.reverse
  | word cs => word (text.reverse ++ cs)
  | quoted mark cs => quoted mark (text.reverse ++ cs)
  | naming outer => naming outer

/-- The name between braces at the start of a text. -/
def bracedName? : List Char → Option String
  | '\x7b' :: c :: rest =>
    let name := c :: rest.takeWhile fun c => c.isAlphanum || c == '_'
    if (c.isAlpha || c == '_') && (rest.drop (name.length - 1)).head? = some '\x7d' then
      some (String.ofList name)
    else none
  | _ => none

/-- The characters that a letter behind a backslash stands for. -/
def escapedLetters : List (Char × Char) :=
  [('f', '\x0c'), ('n', '\n'), ('r', '\r'), ('t', '\t'), ('v', '\x0b')]

/-- The words of a text. Quotation marks keep a word together, and backslashes take the meaning
from what follows them. -/
def splitWords (valueOf : String → Option String) :
    Splitting → List Char → Except String (List String)
  | .between, [] => .ok []
  | .word cs, [] => .ok [String.ofList cs.reverse]
  | .quoted .., [] | .naming _, [] => .error "no terminating quote in -S string"
  | .naming outer, c :: rest =>
    splitWords valueOf (if c == '\x7d' then outer else .naming outer) rest
  | .quoted '\'' cs, c :: rest =>
    match c, rest with
    | '\'', rest => splitWords valueOf (.word cs) rest
    | '\\', [] => .error "invalid backslash at end of string in -S"
    | '\\', d :: rest =>
      let more := if d == '\\' || d == '\'' then [d] else [d, '\\']
      splitWords valueOf (.quoted '\'' (more ++ cs)) rest
    | c, rest => splitWords valueOf (.quoted '\'' (c :: cs)) rest
  | _, ['\\'] => .error "invalid backslash at end of string in -S"
  | state, '\\' :: c :: rest => do
    match c, state with
    | '_', .quoted mark cs => splitWords valueOf (.quoted mark (' ' :: cs)) rest
    | '_', .word cs => return String.ofList cs.reverse :: (← splitWords valueOf .between rest)
    | '_', _ => splitWords valueOf .between rest
    | 'c', .quoted .. => throw "'\\c' must not appear in double-quoted -S string"
    | 'c', .word cs => return [String.ofList cs.reverse]
    | 'c', _ => return []
    | c, state =>
      if ['"', '#', '$', '\'', '\\'].contains c then splitWords valueOf (state.push [c]) rest
      else
        match escapedLetters.lookup c with
        | some e => splitWords valueOf (state.push [e]) rest
        | none => throw ("invalid sequence '\\" ++ String.singleton c ++ "' in -S")
  | state, '$' :: rest =>
    match bracedName? rest with
    | none =>
      throw ("only $\x7bVARNAME\x7d expansion is supported, error at: $" ++ String.ofList rest)
    | some name =>
      match valueOf name with
      | some value => splitWords valueOf (.naming (state.push value.toList)) rest
      | none => splitWords valueOf (.naming state) rest
  | .quoted mark cs, c :: rest =>
    if c == mark then splitWords valueOf (.word cs) rest
    else splitWords valueOf (.quoted mark (c :: cs)) rest
  | .between, c :: rest =>
    if c == ' ' || ('\t' ≤ c && c ≤ '\r') then splitWords valueOf .between rest
    else if c == '#' then .ok []
    else if c == '"' || c == '\'' then splitWords valueOf (.quoted c []) rest
    else splitWords valueOf (.word [c]) rest
  | .word cs, c :: rest => do
    if c == ' ' || ('\t' ≤ c && c ≤ '\r') then
      return String.ofList cs.reverse :: (← splitWords valueOf .between rest)
    else if c == '"' || c == '\'' then splitWords valueOf (.quoted c cs) rest
    else splitWords valueOf (.word (c :: cs)) rest

/-- What is told of words that a text was taken apart into. -/
def splitAccount (text : String) (words : List String) : String :=
  let lines := words.zipIdx.map fun (word, n) =>
    (if n = 0 then " into:    " else "     &    ") ++ curly word ++ "\n"
  "split -S:  " ++ curly text ++ "\n" ++ String.join lines

/-- Arguments with the words of texts in place of the options that hold them, as long as options
are read, and what is told of it if that is asked for. -/
def withSplitWords (valueOf : String → Option String) : (isTold : Bool) → List String →
    Except String (List String × String)
  | _, [] => .ok ([], "")
  | isTold, s :: rest => do
    let split (isTold : Bool) (text : String) (rest : List String) := do
      let words ← splitWords valueOf .between text.toList
      return (words ++ rest, if isTold then splitAccount text words else "")
    match s.toList with
    | ['-', '-'] => return (s :: rest, "")
    | '-' :: 'v' :: 'S' :: text =>
      match text, rest with
      | [], text :: rest =>
        let (words, told) ← split true text rest
        return ("-v" :: words, told)
      | text, rest =>
        let (words, told) ← split true (String.ofList text) rest
        return ("-v" :: words, told)
    | ['-', 'S'] =>
      match rest with
      | text :: rest => split isTold text rest
      | [] => return ([s], "")
    | '-' :: 'S' :: text => split isTold (String.ofList text) rest
    | '-' :: letters =>
      match s.splitOn "--split-string=" with
      | ["", text] => split isTold text rest
      | _ =>
        let (words, told) ← withSplitWords valueOf (isTold || letters.contains 'v') rest
        return (s :: words, told)
    | _ => return (s :: rest, "")

/-- The variables that stand in front of a command, and the command. -/
def settings (environment : List (String × String)) :
    List String → List (String × String) × List String
  | [] => (environment, [])
  | s :: rest =>
    match s.splitOn "=" with
    | name :: value@(_ :: _) =>
      let isKnown := environment.any (·.1 = name)
      let text := "=".intercalate value
      let changed :=
        if isKnown then environment.map fun (n, v) => (n, if n = name then text else v)
        else environment ++ [(name, text)]
      settings changed rest
    | _ => (environment, s :: rest)

/-- The first result of several paths, or the error: a path that may not be executed counts more
than one that leads nowhere, and any other error ends the search. -/
def firstExecuted (attempt : String → Except Errno α) : (isDenied : Bool) → List String →
    Except Errno α
  | isDenied, [] => .error (if isDenied then .accessDenied else .noEntry)
  | isDenied, path :: rest =>
    match attempt path with
    | .ok a => .ok a
    | .error e =>
      if e.isAbsence then firstExecuted attempt isDenied rest
      else if e = .accessDenied then firstExecuted attempt true rest
      else .error e

/-- Tells something on the stream for complaints. -/
def tell (text : String) : Job Unit := do
  let call ← call
  modify (call.write 2 text)

/-- The directory that a program is to run in. -/
def placeFor (files : FileSystem) (here : Location) : Option String → Except Errno Location
  | none => .ok here
  | some path => do
    let (loc, node) ← files.find here (toBytes path)
    if !node.isDirectory then throw .notDirectory
    if !node.permits .execute then throw .accessDenied
    return loc

/-- Runs a program in an environment. -/
def runIn (exec : Executor) (r : Request) (environment : List (String × String))
    (words : List String) : Job Int := do
  let call ← call
  let name := words.headD ""
  if let some path := r.value? 'C' then
    if r.has 'v' then tell ("chdir:    " ++ quoted path ++ "\n")
  match placeFor (← files) call.here (r.value? 'C') with
  | .error e =>
    complain
      ("cannot change directory to " ++ quoted ((r.value? 'C').getD "") ++ ": " ++ e.message)
    return 125
  | .ok here =>
    if r.has 'v' then
      let lines := words.zipIdx.map fun (s, i) =>
        "   arg[" ++ toString i ++ "]= " ++ curly s ++ "\n"
      tell ("executing: " ++ name ++ "\n" ++ String.join lines)
    let path := (environment.lookup "PATH").getD "/bin:/usr/bin"
    let paths :=
      if name.toList.contains '/' || name.isEmpty then [name]
      else (SearchPath.elements path).map (SearchPath.below · name)
    let sys ← get
    let inner := { call with arguments := words, environment, here }
    let attempt (path : String) :=
      match exec sys path inner with
      | .error .execFormat =>
        exec sys shellPath
          { inner with arguments := shellPath :: path :: words.tail }
      | result => result
    match firstExecuted attempt false paths with
    | .ok (sys, status) =>
      set sys
      return status
    | .error e =>
      complain (curly name ++ ": " ++ e.message)
      if e.isAbsence && name.toList.any (fun c => c == ' ' || ('\t' ≤ c && c ≤ '\r')) then
        complain "use -[v]S to pass options in shebang lines"
      return if e = .noEntry then 127 else 126

/-- Runs a program in a changed environment, or shows that. -/
def envJob (exec : Executor) : Job Int := do
  let call ← call
  match withSplitWords (call.environment.lookup ·) false call.arguments.tail with
  | .error complaint =>
    complain complaint
    return 125
  | .ok (words, told) =>
    tell told
    match Request.take envChoices true none words with
    | .error complaint => misuseWith 125 complaint
    | .ok r => inEnvironment r
where
  /-- Does what is asked for. -/
  inEnvironment (r : Request) : Job Int := do
    let (isEmpty, operands) :=
      if r.operands.head? = some "-" then (true, r.operands.tail) else (r.has 'i', r.operands)
    let unset := r.values 'u'
    if isEmpty && r.has 'v' then tell "cleaning environ\n"
    if !isEmpty then
      for name in unset do
        if r.has 'v' then tell ("unset:    " ++ name ++ "\n")
        if name.isEmpty || name.toList.contains '=' then
          complain ("cannot unset " ++ curly name ++ ": " ++ Errno.invalid.message)
          throw 125
    let call ← call
    let environment := if isEmpty then [] else call.environment
    let environment := environment.filter fun (name, _) => !unset.contains name
    let (environment, words) := settings environment operands
    if r.has 'v' then
      for s in operands.take (operands.length - words.length) do
        tell ("setenv:   " ++ s ++ "\n")
    if words.isEmpty then
      if r.has 'C' then misuseWith 125 "must specify command with --chdir (-C)"
      else sayOr 125 (environmentLines (variableEnd r) environment) 0
    else if r.has '0' then misuseWith 125 "cannot specify --null (-0) with command"
    else runIn exec r environment words

/-- The seconds in the units that a time can have. -/
def timeUnits : List (Char × Nat) := [('s', 1), ('m', 60), ('h', 3600), ('d', 86400)]

/-- The longest time that is told from any longer one. -/
def longTime : Time := Nat.pow 10 15

/-- The time that a text stands for. -/
def time? (s : String) : Option Time := do
  let (n, _, rest) ← Binary.double.read s
  let factor ←
    match rest with
    | [] => some 1
    | [c] => timeUnits.lookup c
    | _ => none
  match n.size with
  | .undefined => none
  | .infinite => if n.isNegative then none else some longTime
  | .finite a b =>
    if n.isNegative && a ≠ 0 then none
    else return min longTime (a * factor * 1000000 / b)

/-- Waits for a time. -/
def sleepJob : Job Int :=
  withRequest [] fun r =>
    needOperand r.operands "missing operand" do
      match r.operands.filter fun s => (time? s).isNone with
      | [] =>
        let goal := (← get).clock + (r.operands.filterMap time?).foldl (· + ·) 0
        dieOfSignals goal
        modify (·.waitUntil goal)
        return 0
      | wrong =>
        let complaints := wrong.map fun s => "invalid time interval " ++ curly s
        complaints.dropLast.forM complain
        misuse (complaints.getLastD "")

end Utility

end PocketShell.Machine
