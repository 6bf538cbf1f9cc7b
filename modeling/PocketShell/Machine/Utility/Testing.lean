import PocketShell.Machine.Script.Condition
import PocketShell.Machine.Utility.Job

/-!
# Tests

`test` tells by its status whether a condition holds. How the words of a condition are taken
depends on how many they are; of up to four of them, no word is taken for more than it has to be.

What is known about files is a parameter.
-/

namespace PocketShell.Machine.Utility

open Script (decimal)
open Job

namespace Testing

/-- The words of a condition and the place of the next one. -/
structure Words where
  all : List String
  position : Nat

/-- Evaluating a part of a condition. -/
abbrev Eval := StateT Words (Except String)

/-- The word at a distance from the next one. -/
def peek (distance : Nat) : Eval (Option String) := do
  let w ← get
  return w.all[w.position + distance]?

/-- The next word, or none at the end of the condition. -/
def current : Eval String := return (← peek 0).getD ""

/-- Something is missing behind the last word. -/
def missing : Eval α := do throw ("missing argument after " ++ curly ((← get).all.getLastD ""))

/-- Goes on to the next word, which has to be there on request. -/
def advance (isNeeded : Bool) : Eval Unit := do
  modify fun w => { w with position := w.position + 1 }
  if isNeeded && (← peek 0).isNone then missing

/-- How many words are left. -/
def left : Eval Nat := do
  let w ← get
  return w.all.length - w.position

/-- The operators between two operands. -/
def comparisons : List String :=
  ["=", "==", "!=", "-nt", "-ot", "-ef", "-eq", "-ne", "-lt", "-le", "-gt", "-ge"]

/-- Whether a word is an operator between two operands. -/
def isComparison (s : Option String) : Bool := s.any comparisons.contains

/-- The integer that a text is. -/
def integer (s : String) : Eval Int :=
  let isSpace (c : Char) : Bool := c == ' ' || ('\t' ≤ c && c ≤ '\r')
  let cs := s.toList.dropWhile isSpace
  let (isNegative, cs) : Bool × List Char :=
    match cs with
    | '-' :: cs => (true, cs)
    | '+' :: cs => (false, cs)
    | cs => (false, cs)
  let ds := cs.takeWhile Char.isDigit
  if ds.isEmpty || !(cs.drop ds.length).all isSpace then throw ("invalid integer " ++ curly s)
  else return if isNegative then -(decimal ds : Int) else decimal ds

section

variable (i : Inquiry)

/-- Whether a file was changed after another one, which need not be there. -/
def isNewer (a b : String) : Bool :=
  match i.changeAt? a, i.changeAt? b with
  | some s, some t => t < s
  | some _, none => true
  | none, _ => false

/-- A comparison of two operands. A length can stand for an integer. -/
def comparison (leftIsLength : Bool) : Eval Bool := do
  if leftIsLength then advance false
  let a ← current
  advance false
  let operator ← current
  advance true
  let rightIsLength := (← current) = "-l" && 2 ≤ (← left) && operator.startsWith "-"
  if rightIsLength then advance true
  let b ← current
  advance false
  let value (isLength : Bool) (s : String) : Eval Int :=
    if isLength then return s.length else integer s
  match operator with
  | "=" | "==" => return a = b
  | "!=" => return a ≠ b
  | "-nt" | "-ot" | "-ef" =>
    if leftIsLength || rightIsLength then throw (operator ++ " does not accept -l")
    match operator with
    | "-nt" => return isNewer i a b
    | "-ot" => return isNewer i b a
    | _ => return i.areSame a b
  | _ =>
    let m ← value leftIsLength a
    let n ← value rightIsLength b
    match operator with
    | "-eq" => return m = n
    | "-ne" => return m ≠ n
    | "-lt" => return m < n
    | "-le" => return m ≤ n
    | "-gt" => return n < m
    | _ => return n ≤ m

/-- The letters of the questions about files. -/
def fileLetters : List Char := "rwxesbcdfghkLNOGpSu".toList

/-- A question about one operand. -/
def question : Eval Bool := do
  let name ← current
  let letter := name.toList.getD 1 ' '
  if !(letter == 'n' || letter == 'z' || letter == 't' || fileLetters.contains letter) then
    throw (curly name ++ ": unary operator expected")
  advance true
  let operand ← current
  advance false
  match letter with
  | 'n' => return !operand.isEmpty
  | 'z' => return operand.isEmpty
  | 't' =>
    let _ ← integer operand
    return false
  | c => return i.holds c operand

/-- Whether a word looks like a question. -/
def isQuestion (s : String) : Bool :=
  match s.toList with
  | ['-', _] => true
  | _ => false

/-- A single word. -/
def lone : Eval Bool := do
  let s ← current
  advance false
  return !s.isEmpty

/-- The value of two words. -/
def ofTwo : Eval Bool := do
  let s ← current
  if s = "!" then
    advance false
    return !(← lone)
  else if isQuestion s then question i
  else missing

mutual

/-- The value of a number of words. -/
def ofCount : (fuel count : Nat) → Eval Bool
  | 0, _ => return false
  | _, 1 => lone
  | _, 2 => ofTwo i
  | fuel + 1, 3 => ofThree fuel
  | fuel + 1, 4 => do
    let s ← current
    if s = "!" then
      advance true
      return !(← ofThree fuel)
    else if s = "(" && (← peek 3) = some ")" then
      advance false
      let value ← ofTwo i
      advance false
      return value
    else disjunction fuel
  | fuel + 1, _ => disjunction fuel

/-- The value of three words. -/
def ofThree : (fuel : Nat) → Eval Bool
  | 0 => return false
  | fuel + 1 => do
    let second ← peek 1
    let s ← current
    if isComparison second then comparison i false
    else if s = "!" then
      advance true
      return !(← ofTwo i)
    else if s = "(" && (← peek 2) = some ")" then
      advance false
      let value ← lone
      advance false
      return value
    else if second = some "-a" || second = some "-o" then disjunction fuel
    else throw (curly (second.getD "") ++ ": binary operator expected")

/-- Conditions of which one has to hold. -/
def disjunction : (fuel : Nat) → Eval Bool
  | 0 => return false
  | fuel + 1 => do
    if (← peek 0).isNone then missing
    let a ← conjunction fuel
    if (← peek 0) = some "-o" then
      advance false
      let b ← disjunction fuel
      return a || b
    return a

/-- Conditions that all have to hold. -/
def conjunction : (fuel : Nat) → Eval Bool
  | 0 => return false
  | fuel + 1 => do
    let a ← term fuel
    if (← peek 0) = some "-a" then
      advance false
      let b ← conjunction fuel
      return a && b
    return a

/-- A condition that may be negated. -/
def term : (fuel : Nat) → Eval Bool
  | 0 => return false
  | fuel + 1 => do
    if (← peek 0).isNone then missing
    let s ← current
    if s = "!" then
      advance true
      return !(← term fuel)
    else if s = "(" then
      advance true
      let w ← get
      let inner := (w.all.drop w.position).tail.takeWhile (· ≠ ")")
      let count := inner.length + 1
      let count := if 4 ≤ count then w.all.length - w.position else count
      let value ← ofCount fuel count
      match ← peek 0 with
      | none => throw (curly ")" ++ " expected")
      | some ")" =>
        advance false
        return value
      | some s => throw (curly ")" ++ " expected, found " ++ curly s)
    else if 4 ≤ (← left) && s = "-l" && isComparison (← peek 2) then comparison i true
    else if 3 ≤ (← left) && isComparison (← peek 1) then comparison i false
    else if isQuestion s then question i
    else lone

end

/-- Whether the condition of words holds. -/
def value (words : List String) : Except String Bool := do
  if words.isEmpty then return false
  let (value, w) ← (ofCount i (8 * words.length + 16) words.length).run ⟨words, 0⟩
  match words[w.position]? with
  | some s => throw ("extra argument " ++ curly s)
  | none => return value

end

end Testing

/-- Tests a condition. -/
def testJob (isBracketed : Bool) : Job Int := do
  let words ← arguments
  if isBracketed && words.getLast? ≠ some "]" then
    complain ("missing " ++ curly "]")
    return 2
  let words := if isBracketed then words.dropLast else words
  match Testing.value ⟨← files, (← call).here⟩ words with
  | .ok holds => return if holds then 0 else 1
  | .error complaint =>
    complain complaint
    return 2

end PocketShell.Machine.Utility
