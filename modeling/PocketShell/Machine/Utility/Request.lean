import PocketShell.Machine.Utility.Job

/-!
# Requests

What a utility is asked for by the arguments of its call: options and operands. An option has a
letter and can have long names, of which any beginning will do that no other name has. Letters
can stand together in one argument, and the value of an option behind it or in the next.
-/

namespace PocketShell.Machine.Utility

/-- What is told about the value of an option. -/
inductive Value where
  | none
  | needed
  /-- The value can only stand in the argument of the option itself. -/
  | possible
  deriving DecidableEq

/-- An option that a utility knows. -/
structure Choice where
  letter : Char
  names : List String
  value : Value
  /-- Whether the letter can be written. If not, it only tells the option from others. -/
  isWritten : Bool

/-- What a call asks for: options with their values, in order, and operands. -/
structure Request where
  options : List (Char × Option String)
  operands : List String

namespace Choice

/-- An option without a value. -/
def flag (letter : Char) (names : List String) : Choice := ⟨letter, names, .none, true⟩

/-- An option with a value. -/
def withValue (letter : Char) (names : List String) : Choice := ⟨letter, names, .needed, true⟩

/-- An option that can have a value. -/
def mayHave (letter : Char) (names : List String) : Choice := ⟨letter, names, .possible, true⟩

/-- An option that has long names only. -/
def named (letter : Char) (names : List String) (value : Value) : Choice :=
  ⟨letter, names, value, false⟩

/-- Options without values that have letters only. -/
def flags (letters : String) : List Choice := letters.toList.map (flag · [])

/-- The option that a long name stands for, or what is wrong with it. -/
def find (choices : List Choice) (name written : String) : Except String Choice :=
  match choices.find? (·.names.contains name) with
  | some c => .ok c
  | none =>
    let possible := choices.flatMap fun c =>
      (c.names.filter (·.startsWith name)).map fun n => (c, n)
    match possible with
    | [] => .error ("unrecognized option '" ++ written ++ "'")
    | (c, _) :: rest =>
      if rest.all (·.1.letter = c.letter) then .ok c
      else
        .error ("option '" ++ written ++ "' is ambiguous; possibilities:" ++
          String.join (possible.map fun (_, n) => " '--" ++ n ++ "'"))

end Choice

namespace Request

/-- Whether an option is given. -/
def has (r : Request) (letter : Char) : Bool := r.options.any (·.1 == letter)

/-- The values that were given to an option. -/
def values (r : Request) (letter : Char) : List String :=
  r.options.filterMap fun (c, value?) => if c == letter then value? else none

/-- The value that was given last to an option. -/
def value? (r : Request) (letter : Char) : Option String := (r.values letter).getLast?

/-- The one of several options that was given last. -/
def lastOf (r : Request) (letters : List Char) : Option Char :=
  (r.options.reverse.find? fun (c, _) => letters.contains c).map (·.1)

/-- Adds an option in front. -/
def push (letter : Char) (value? : Option String) (r : Request) : Request :=
  { r with options := (letter, value?) :: r.options }

/-- The letters of one argument: the options, and the letter of the last one if its value has to
stand in the next argument. -/
def cluster (choices : List Choice) :
    List Char → Except String (List (Char × Option String) × Option Char)
  | [] => .ok ([], none)
  | c :: cs =>
    match choices.find? fun choice => choice.isWritten && choice.letter == c with
    | none => .error ("invalid option -- '" ++ String.singleton c ++ "'")
    | some choice =>
      match choice.value with
      | .none => do
        let (options, awaited) ← cluster choices cs
        return ((c, none) :: options, awaited)
      | .possible => .ok ([(c, if cs.isEmpty then none else some (String.ofList cs))], none)
      | .needed =>
        if cs.isEmpty then .ok ([], some c) else .ok ([(c, some (String.ofList cs))], none)

/-- Takes arguments apart, up to the first operand or all of them. `awaited` is an option whose
value comes next, with the complaint if it does not. -/
def take (choices : List Choice) (stopsAtOperand : Bool) :
    (awaited : Option (Char × String)) → List String → Except String Request
  | some (_, complaint), [] => .error complaint
  | none, [] => .ok ⟨[], []⟩
  | some (c, _), s :: rest => do
    return (← take choices stopsAtOperand none rest).push c (some s)
  | none, s :: rest => do
    match s.toList with
    | ['-', '-'] => return ⟨[], rest⟩
    | '-' :: '-' :: cs =>
      let name := String.ofList (cs.takeWhile (· != '='))
      let behind := cs.dropWhile (· != '=')
      let c ← Choice.find choices name s
      let full := (c.names.find? (·.startsWith name)).getD name
      match c.value, behind with
      | .none, _ :: _ => throw ("option '--" ++ full ++ "' doesn't allow an argument")
      | .needed, [] =>
        let complaint := "option '--" ++ full ++ "' requires an argument"
        take choices stopsAtOperand (some (c.letter, complaint)) rest
      | _, behind =>
        let r ← take choices stopsAtOperand none rest
        return r.push c.letter (if behind.isEmpty then none else some (String.ofList behind.tail))
    | '-' :: c :: cs =>
      let (options, awaited) ← cluster choices (c :: cs)
      let complaint (c : Char) := "option requires an argument -- '" ++ String.singleton c ++ "'"
      let r ← take choices stopsAtOperand (awaited.map fun c => (c, complaint c)) rest
      return { r with options := options ++ r.options }
    | _ =>
      if stopsAtOperand then return ⟨[], s :: rest⟩
      let r ← take choices stopsAtOperand none rest
      return { r with operands := s :: r.operands }

/-- What a value stands for among those that an option can have, or what is wrong with it. A
beginning will do if all values that begin so stand for the same. Values that do are told
together. -/
def meaning [BEq α] (option : String) (values : List (List String × α)) (s : String) :
    Except String α :=
  let all := values.flatMap fun (names, a) => names.map (·, a)
  let begun := all.filter (·.1.startsWith s)
  match all.lookup s, begun with
  | some a, _ => .ok a
  | none, (_, a) :: rest =>
    if rest.all (·.2 == a) then .ok a
    else .error ("ambiguous argument " ++ curly s ++ " for " ++ curly option ++ list)
  | none, [] => .error ("invalid argument " ++ curly s ++ " for " ++ curly option ++ list)
where
  /-- The values that the option can have. -/
  list : String :=
    "\nValid arguments are:" ++
      String.join (values.map fun (names, _) => "\n  - " ++ ", ".intercalate (names.map curly))

end Request

open Job

/-- Takes the call apart, if its options are known. -/
def withRequest (choices : List Choice) (act : Request → Job Int) : Job Int := do
  match Request.take choices false none (← arguments) with
  | .ok r => act r
  | .error complaint => misuse complaint

/-- Takes the call apart up to its first operand, if its options are known. -/
def withLeadingOptions (choices : List Choice) (act : Request → Job Int) : Job Int := do
  match Request.take choices true none (← arguments) with
  | .ok r => act r
  | .error complaint => misuse complaint

end PocketShell.Machine.Utility
