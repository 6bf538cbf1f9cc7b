import PocketShell.Machine.Script.WordReading
import PocketShell.Machine.Signal
import PocketShell.Machine.Utility.Request

/-!
# Signalling

`kill` sends a signal to processes, or tells the names of the signals. Unlike in scripts, a
signal can be asked for anywhere among the arguments.
-/

namespace PocketShell.Machine.Utility

open Script (toBytes)
open Job

/-- The options of `kill`. -/
def killChoices : List Choice :=
  [.mayHave 'l' ["list"], .flag 'L' ["table"], .withValue 's' ["signal"],
   .flag 'h' ["help"], .flag 'V' ["version"], .withValue 'q' ["queue"]]

/-- What `kill` is for. -/
def killHelp : String :=
  "\nUsage:\n kill [options] <pid> [...]\n\nOptions:\n" ++
  " <pid> [...]            send signal to every <pid> listed\n" ++
  " -<signal>, -s, --signal <signal>\n" ++
  "                        specify the <signal> to be sent\n" ++
  " -q, --queue <value>    integer value to be sent with the signal\n" ++
  " -l, --list=[<signal>]  list all signal names, or convert one to a name\n" ++
  " -L, --table            list all signal names in a nice table\n\n" ++
  " -h, --help     display this help and exit\n" ++
  " -V, --version  output version information and exit\n\n" ++
  "For more details see kill(1).\n"

/-- The signals that have a meaning of their own, with the names that they are listed by. -/
def listedSignals : List (Nat × String) :=
  Signal.table.map fun (n, name, _) =>
    (n, (([(16, "STKFLT"), (29, "POLL")] : List (Nat × String)).lookup n).getD name)

/-- The names of the signals in lines. -/
def signalLines : String :=
  let add (done : String × Nat) (name : String) : String × Nat :=
    let (text, column) := done
    if text.isEmpty then (name, name.length)
    else if 73 < column then (text ++ "\n" ++ name, name.length)
    else (text ++ " " ++ name, column + 1 + name.length)
  ((listedSignals.map (·.2)).foldl add ("", 0)).1 ++ "\n"

/-- The signals in a table, seven in a row. -/
def signalTable : String :=
  String.join (listedSignals.map fun (n, name) =>
    let cell := (if n < 10 then " " else "") ++ toString n ++ " " ++ name
    if n % 7 = 0 then cell ++ "\n"
    else cell ++ String.ofList (List.replicate (11 - cell.length) ' ')) ++ "\n"

/-- A name of a signal in capitals, without what many names start with. -/
def bareName (s : String) : String :=
  let s := s.toUpper
  if s.startsWith "SIG" then (s.drop 3).toString else s

/-- The signal that a text asks for. Further names stand for some, and signals can be counted
from the first free one. -/
def askedSignal? (s : String) : Option Nat :=
  let name := bareName s
  let numberOf (cs : List Char) : Option Nat :=
    if !cs.isEmpty && cs.all Char.isDigit && Script.decimal cs + Signal.firstFree ≤ 127 then
      some (Script.decimal cs)
    else none
  let further := [("CLD", 17), ("IO", 29), ("IOT", 6), ("EXIT", 0), ("NULL", 0)]
  let known := further ++ listedSignals.map fun (n, name) => (name, n)
  match known.lookup name with
  | some n => some n
  | none =>
    if name.startsWith "RTMIN" then
      match name.toList.drop 5 with
      | [] => some Signal.firstFree
      | '+' :: cs => (numberOf cs).map (Signal.firstFree + ·)
      | _ => none
    else numberOf name.toList

/-- The name of a signal that is given by its number, or the other way round. -/
def translated? (s : String) : Option String :=
  let name := bareName s
  if name.toList.head?.any Char.isDigit then
    if s.toList.all Char.isDigit then listedSignals.lookup (Script.decimal s.toList) else none
  else (listedSignals.find? (·.2 = name)).map fun (n, _) => toString n

/-- The number that an argument is, or what is wrong with it. -/
def integer (kind s : String) : Except String Int :=
  let invalid := kind ++ ": '" ++ s ++ "'"
  let cs := s.toList.dropWhile fun c => c == ' ' || ('\t' ≤ c && c ≤ '\r')
  let (isNegative, ds) :=
    match cs with
    | '-' :: ds => (true, ds)
    | '+' :: ds => (false, ds)
    | ds => (false, ds)
  if s.isEmpty then .error (invalid ++ ": " ++ Errno.noEntry.message)
  else if ds.isEmpty || !ds.all Char.isDigit then .error invalid
  else
    let n := Script.decimal ds
    if n < Nat.pow 2 63 then .ok (if isNegative then -n else n)
    else .error (invalid ++ ": Numerical result out of range")

/-- The arguments without the first that asks for a signal, and that signal. -/
def takeSignal : List String → Option Nat × List String
  | [] => (none, [])
  | s :: rest =>
    match if s.startsWith "-" then askedSignal? (s.drop 1).toString else none with
    | some n => (some n, rest)
    | none =>
      let (signal, others) := takeSignal rest
      (signal, s :: others)

/-- The letter that a complaint about options names; an option without a letter has the
character 0. -/
def blamedLetter (complaint : String) : Char :=
  match complaint.splitOn " -- '" with
  | [_, rest] => rest.toList.headD '\x00'
  | _ =>
    let isMeant (c : Choice) : Bool :=
      c.names.any fun name => 1 < (complaint.splitOn ("'--" ++ name ++ "'")).length
    ((killChoices.find? isMeant).map (·.letter)).getD '\x00'

/-- Sends a signal to processes, as long as they are given by numbers. `signal` is `none` if
there is no such signal. -/
def signalAll (signal : Option Nat) : (isDone : Bool) → List String → Job Int
  | isDone, [] => return if isDone then 0 else 1
  | isDone, s :: rest => do
    match integer "failed to parse argument" s with
    | .error complaint =>
      complain complaint
      return 1
    | .ok process =>
      let sys ← get
      let target := if 0 ≤ process then sys.send process.toNat 0 else .error .noProcess
      let result : Except Errno System :=
        match signal.filter (· ≤ Signal.last) with
        | some n => target.bind fun sys => sys.send process.toNat n
        | none =>
          match target with
          | .error .noProcess => .error .noProcess
          | _ => .error .invalid
      match result with
      | .ok sys =>
        set sys
        signalAll signal isDone rest
      | .error e =>
        complain ("(" ++ toString process ++ "): " ++ e.message)
        signalAll signal false rest

/-- Sends a signal to processes, or tells about signals. -/
def killJob : Job Int := do
  let (given, words) := takeSignal (← arguments)
  let help : Job Int := do
    let call ← call
    modify (call.write 2 killHelp)
    return 1
  let status ←
    match Request.take killChoices false none words with
    | .error complaint => do
      complain ("invalid argument " ++ String.singleton (blamedLetter complaint))
      help
    | .ok r =>
      match r.options.find? fun (c, _) => ['l', 'L', 'h', 'V'].contains c with
      | some ('l', value) =>
        match (value.filter (!·.isEmpty)).getD (r.operands.headD "") with
        | "" => say signalLines 0
        | s =>
          match translated? s with
          | some text => say (text ++ "\n") 0
          | none => do
            complain ("unknown signal name " ++ s)
            return 0
      | some ('L', _) => say signalTable 0
      | some ('h', _) => say killHelp 0
      | some _ => say "kill from procps-ng 4.0.4\n" 0
      | none =>
        let queue := (r.value? 'q').map
          (integer "must be an integer value to be passed with the signal.")
        if let some (.error complaint) := queue then do
          complain complaint
          return 1
        else if r.operands.isEmpty then help
        else
          let signal :=
            match r.value? 's' with
            | some name => askedSignal? name
            | none => some (given.getD 15)
          signalAll signal true r.operands
  dieOfSignals (← get).clock
  return status

end PocketShell.Machine.Utility
