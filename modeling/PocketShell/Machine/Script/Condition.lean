import PocketShell.Machine.Path
import PocketShell.Machine.Script.ByteText
import PocketShell.Machine.Script.Sum

/-!
# Conditions

The expressions of `test`. Whether a word is an operator depends on the words around it, so
that any word can be an operand.

What is known about files is a parameter.
-/

namespace PocketShell.Machine

namespace FileSystem

open Script (toBytes)

/-- Answers a question about a file. -/
def holds (fs : FileSystem) (here : Location) (letter : Char) (path : String) : Bool :=
  let found := (fs.find here (toBytes path)).toOption.map (·.2)
  match letter with
  | 'h' | 'L' =>
    match fs.findEntry here (toBytes path) with
    | .ok (_, .link _) => true
    | _ => false
  | 'd' => found.any Node.isDirectory
  | 'f' => found.any Node.isRegular
  | 's' =>
    match found with
    | some (.file _ content) => !content.isEmpty
    | some .device => false
    | some _ => true
    | none => false
  | 'r' => found.any (·.permits .read)
  | 'w' => found.any (·.permits .write)
  | 'x' => found.any fun node => node.permits .execute && node ≠ .device
  | 'c' => found = some .device
  | 'e' => found.isSome
  | 'O' | 'G' =>
    match found with
    | some (.file _ _) => true
    | some (.directory mode) => mode ≠ systemMode
    | _ => false
  | _ => false

/-- When the file that a path leads to was changed last. -/
def changeAt? (fs : FileSystem) (here : Location) (path : String) : Option Int :=
  ((fs.resolve here (toBytes path)).toOption.bind fs.number?).bind fs.changeOf?

/-- Whether two paths lead to one file. -/
def areSame (fs : FileSystem) (here : Location) (a b : String) : Bool :=
  let number? (path : String) := (fs.resolve here (toBytes path)).toOption.bind fs.number?
  (number? a).isSome && number? a = number? b

end FileSystem

/-- What is known about files where a condition is tested. -/
structure Inquiry where
  files : FileSystem
  here : Location

namespace Inquiry

/-- Answers a question about the file that a path leads to. -/
def holds (i : Inquiry) (letter : Char) (path : String) : Bool :=
  i.files.holds i.here letter path

/-- When the file that a path leads to was changed last. -/
def changeAt? (i : Inquiry) (path : String) : Option Int := i.files.changeAt? i.here path

/-- Whether two paths lead to one file. -/
def areSame (i : Inquiry) (a b : String) : Bool := i.files.areSame i.here a b

end Inquiry

namespace Script

namespace Condition

/-- What a word can be in a condition. -/
inductive Kind where
  | unary (letter : Char)
  | binary (name : String)
  | negation
  | both
  | either
  | opening
  | closing
  deriving DecidableEq, Repr

/-- The letters of the questions about one operand. -/
def letters : List Char := "bcdefghknprstuwxzGLOS".toList

/-- The operators between two operands. -/
def comparisons : List String :=
  ["=", "!=", "<", ">", "-eq", "-ne", "-gt", "-ge", "-lt", "-le", "-nt", "-ot", "-ef"]

/-- What a word is if it is not an operand. -/
def kind? (s : String) : Option Kind :=
  match s.toList with
  | ['!'] => some .negation
  | ['('] => some .opening
  | [')'] => some .closing
  | ['-', 'a'] => some .both
  | ['-', 'o'] => some .either
  | ['-', c] => if letters.contains c then some (.unary c) else none
  | _ => if comparisons.contains s then some (.binary s) else none

/-- Whether a word that looks like a question is an operand, because nothing follows it or a
comparison does. -/
def isOperand : List String → Bool
  | [] => true
  | [_] => false
  | s :: _ =>
    match kind? s with
    | some (.binary _) => true
    | _ => false

/-- What the first word is where it stands. -/
def lex : List String → Option Kind
  | [] => none
  | s :: rest =>
    match kind? s with
    | some (.unary c) => if isOperand rest then none else some (.unary c)
    | some .opening => if rest.isEmpty then none else some .opening
    | k => k

/-- The integer that an operand is. -/
def number (s : String) : Except String Int :=
  let cs := s.toList.dropWhile fun c => c == ' ' || ('\t' ≤ c && c ≤ '\r')
  let (isNegative, cs) : Bool × List Char :=
    match cs with
    | '-' :: cs => (true, cs)
    | '+' :: cs => (false, cs)
    | _ => (false, cs)
  let ds := cs.takeWhile Char.isDigit
  let n : Int := if isNegative then -(decimal ds : Int) else decimal ds
  if ds.isEmpty || (cs.drop ds.length).any (fun c => !(c == ' ' || ('\t' ≤ c && c ≤ '\r'))) ||
      Sum.clamp n ≠ n then
    throw ("Illegal number: " ++ s)
  else return n

section

variable (i : Inquiry)

/-- Whether a file was changed after another one. Both have to be there. -/
def isNewer (a b : String) : Bool :=
  match i.changeAt? a, i.changeAt? b with
  | some s, some t => t < s
  | _, _ => false

/-- A comparison of two operands. -/
def compare (name a b : String) : Except String Bool := do
  match name with
  | "=" => return a = b
  | "!=" => return a ≠ b
  | "<" => return a < b
  | ">" => return b < a
  | "-nt" => return isNewer i a b
  | "-ot" => return isNewer i b a
  | "-ef" => return i.areSame a b
  | _ =>
    let m ← number a
    let n ← number b
    match name with
    | "-eq" => return m = n
    | "-ne" => return m ≠ n
    | "-gt" => return n < m
    | "-ge" => return n ≤ m
    | "-lt" => return m < n
    | _ => return m ≤ n

/-- The answer to a question about one operand. -/
def ask (letter : Char) (operand : String) : Except String Bool := do
  match letter with
  | 'n' => return !operand.isEmpty
  | 'z' => return operand.isEmpty
  | 't' =>
    let _ ← number operand
    return false
  | c => return i.holds c operand

mutual

/-- Conditions that `-o` joins. The result comes with the words from the last one used on, and
`k` is what the first word is taken for. -/
def disjunction : (fuel : Nat) → (k : Option Kind) → List String →
    Except String (Bool × List String)
  | 0, _, ws => return (false, ws)
  | fuel + 1, k, ws => do
    let (a, ws) ← conjunction fuel k ws
    match lex ws.tail with
    | some .either =>
      let rest := ws.tail.tail
      let (b, ws) ← disjunction fuel (lex rest) rest
      return (a || b, ws)
    | _ => return (a, ws)

/-- Conditions that `-a` joins. -/
def conjunction : (fuel : Nat) → (k : Option Kind) → List String →
    Except String (Bool × List String)
  | 0, _, ws => return (false, ws)
  | fuel + 1, k, ws => do
    let (a, ws) ← negation fuel k ws
    match lex ws.tail with
    | some .both =>
      let rest := ws.tail.tail
      let (b, ws) ← conjunction fuel (lex rest) rest
      return (a && b, ws)
    | _ => return (a, ws)

/-- A condition that may be negated. -/
def negation : (fuel : Nat) → (k : Option Kind) → List String →
    Except String (Bool × List String)
  | 0, _, ws => return (false, ws)
  | fuel + 1, some .negation, ws => do
    match ws.tail with
    | [] => return (true, ws)
    | rest =>
      let (a, ws) ← negation fuel (lex rest) rest
      return (!a, ws)
  | fuel + 1, k, ws => primary fuel k ws

/-- A single condition. -/
def primary : (fuel : Nat) → (k : Option Kind) → List String →
    Except String (Bool × List String)
  | fuel + 1, some .opening, ws => do
    let rest := ws.tail
    match lex rest with
    | some .closing => return (false, rest)
    | k =>
      let (a, ws) ← disjunction fuel k rest
      if lex ws.tail ≠ some .closing then throw "closing paren expected"
      return (a, ws.tail)
  | _, some (.unary c), ws =>
    match ws.tail with
    | [] => throw (ws.headD "" ++ ": argument expected")
    | operand :: rest => do return (← ask i c operand, operand :: rest)
  | _, _, ws =>
    match ws with
    | [] => return (false, [])
    | a :: rest =>
      match lex rest, rest with
      | some (.binary name), _ :: b :: rest => do return (← compare i name a b, b :: rest)
      | some (.binary name), _ => throw (name ++ ": argument expected")
      | _, _ => return (!a.isEmpty, ws)

end

/-- The value of a whole condition, given what its first word is taken for. -/
def whole (k : Option Kind) (ws : List String) : Except String Bool := do
  let (a, rest) ← disjunction i (6 * ws.length + 8) k ws
  match rest with
  | s :: _ :: _ => throw ((if s.isEmpty then "" else s ++ ": ") ++ "unexpected operator")
  | _ => return a

/-- The value of the words of `test`. Up to four of them are told apart by their number. -/
def value : (fuel : Nat) → List String → Except String Bool
  | _, [] => return false
  | fuel + 1, ws => do
    let isComparison := ws.length = 3 &&
      match kind? (ws.getD 1 "") with
      | some (.binary _) => true
      | _ => false
    if isComparison then whole i none ws
    else if ws.length = 3 || ws.length = 4 then
      if ws.head? = some "(" && ws.getLast? = some ")" then
        let inner := ws.tail.dropLast
        whole i (lex inner) inner
      else if ws.head? = some "!" then return !(← value fuel ws.tail)
      else whole i (lex ws) ws
    else whole i (lex ws) ws
  | 0, ws => whole i (lex ws) ws

end

end Condition

end Script

end PocketShell.Machine
