import PocketShell.Machine.Regular
import PocketShell.Machine.Script.Sum
import PocketShell.Machine.Utility.Job

/-!
# Expressions of words

`expr` evaluates an expression of which every operator and operand is a word of its own. Its
values are texts, of which some are integers. A part whose value is not asked for is read but not
evaluated.
-/

namespace PocketShell.Machine.Utility

open Script (charactersOf decimal)
open Job

namespace Expression

/-- Why an expression has no value. -/
inductive Fault where
  /-- Something is missing behind a word. -/
  | missing (word : String)
  | unclosed (word : String)
  | unopened
  | unexpected (word : String)
  | noInteger
  | byZero
  | badPattern (reason : String)

/-- What a fault is called. -/
def Fault.message : Fault → String
  | missing word => "syntax error: missing argument after " ++ curly word
  | unclosed word => "syntax error: expecting ')' after " ++ curly word
  | unopened => "syntax error: unexpected ')'"
  | unexpected word => "syntax error: unexpected argument " ++ curly word
  | noInteger => "non-integer argument"
  | byZero => "division by zero"
  | badPattern reason => reason

/-- What has been read, the last word first, and what is left. -/
structure Words where
  before : List String
  rest : List String

/-- Reading and evaluating a part of an expression. -/
abbrev Eval := StateT Words (Except Fault)

/-- Takes the next word. -/
def take : Eval String := do
  let w ← get
  match w.rest with
  | s :: rest =>
    set (Words.mk (s :: w.before) rest)
    return s
  | [] => throw (.missing (w.before.headD ""))

/-- Takes the next word if it is one of some. -/
def takeOneOf (words : List String) : Eval (Option String) := do
  match (← get).rest with
  | s :: _ =>
    if words.contains s then return some (← take) else return none
  | [] => return none

/-- The integer that a text is. -/
def integer? (s : String) : Option Int :=
  let (isNegative, ds) :=
    match s.toList with
    | '-' :: ds => (true, ds)
    | ds => (false, ds)
  if ds.isEmpty || !ds.all Char.isDigit then none
  else some (if isNegative then -(decimal ds : Int) else decimal ds)

/-- Whether a value stands for nothing. -/
def isNothing (s : String) : Bool := s.isEmpty || integer? s = some 0

/-- The start of a text that an expression stands for: its length, or the text of the first group
if there is one. -/
def matched (text pattern : String) : Except Fault String :=
  match Regular.ofText pattern with
  | .error reason => throw (.badPattern reason)
  | .ok (r, groups) =>
    let letters := charactersOf text
    match r.longest? letters with
    | none => return if groups = 0 then "0" else ""
    | some place =>
      if groups = 0 then return toString (letters.length - place.rest.length)
      else return String.ofList ((place.groups.lookup 1).getD []).flatten

/-- The place of the first character of a text that is among some, counted from one. -/
def firstOf (text among : String) : String :=
  let set := charactersOf among
  match (charactersOf text).findIdx? set.contains with
  | some i => toString (i + 1)
  | none => "0"

/-- The part of a text from a place on, as long as asked for. -/
def part (text start length : String) : String :=
  match integer? start, integer? length with
  | some a, some n =>
    if a ≤ 0 || n ≤ 0 then ""
    else String.ofList (((charactersOf text).drop (a.toNat - 1)).take n.toNat).flatten
  | _, _ => ""

/-- The operators between two values, by how tightly they bind. -/
def operators : List (List String) :=
  [["|"], ["&"], ["<", "<=", "=", "==", "!=", ">=", ">"], ["+", "-"], ["*", "/", "%"], [":"]]

/-- What an operator makes of two values. -/
def operate (operator a b : String) : Except Fault String := do
  let order :=
    match integer? a, integer? b with
    | some m, some n => compare m n
    | _, _ => compare a b
  let truth (holds : Bool) : String := if holds then "1" else "0"
  match operator with
  | "|" => return if !isNothing a then a else if isNothing b then "0" else b
  | "&" => return if isNothing a || isNothing b then "0" else a
  | "=" | "==" => return truth (order == .eq)
  | "!=" => return truth (order != .eq)
  | "<" => return truth (order == .lt)
  | "<=" => return truth (order != .gt)
  | ">" => return truth (order == .gt)
  | ">=" => return truth (order != .lt)
  | ":" => matched a b
  | _ =>
    let (some m, some n) := (integer? a, integer? b) | throw .noInteger
    match operator with
    | "+" => return toString (m + n)
    | "-" => return toString (m - n)
    | "*" => return toString (m * n)
    | "/" => if n = 0 then throw .byZero else return toString (m.tdiv n)
    | _ => if n = 0 then throw .byZero else return toString (m.tmod n)

mutual

/-- The value of operators that bind at least as tightly as a rank. -/
def ranked : (fuel rank : Nat) → (isAsked : Bool) → Eval String
  | 0, _, _ => throw .unopened
  | fuel + 1, rank, isAsked =>
    match operators[rank]? with
    | none => function fuel isAsked
    | some known => do
      let first ← ranked fuel (rank + 1) isAsked
      further fuel rank known isAsked first

/-- Applies the operators of a rank that follow, from the left. -/
def further : (fuel rank : Nat) → (known : List String) → (isAsked : Bool) → String → Eval String
  | 0, _, _, _, first => return first
  | fuel + 1, rank, known, isAsked, first => do
    match ← takeOneOf known with
    | none => return first
    | some operator =>
      let asksSecond :=
        if operator = "|" then isNothing first else if operator = "&" then !isNothing first else true
      let second ← ranked fuel (rank + 1) (isAsked && asksSecond)
      if !isAsked then further fuel rank known isAsked first
      else
        let value ← (operate operator first second : Except Fault String)
        further fuel rank known isAsked value

/-- The value of a function, or of what can stand in its place. -/
def function : (fuel : Nat) → (isAsked : Bool) → Eval String
  | 0, _ => throw .unopened
  | fuel + 1, isAsked => do
    match ← takeOneOf ["+", "length", "match", "index", "substr"] with
    | none => primary fuel isAsked
    | some "+" => take
    | some "length" => return toString (charactersOf (← function fuel isAsked)).length
    | some "match" =>
      let text ← function fuel isAsked
      let pattern ← function fuel isAsked
      if isAsked then (matched text pattern : Except Fault String) else return text
    | some "index" =>
      let text ← function fuel isAsked
      return firstOf text (← function fuel isAsked)
    | some _ =>
      let text ← function fuel isAsked
      let start ← function fuel isAsked
      return part text start (← function fuel isAsked)

/-- The value of a word or of what stands between brackets. -/
def primary : (fuel : Nat) → (isAsked : Bool) → Eval String
  | 0, _ => throw .unopened
  | fuel + 1, isAsked => do
    match ← take with
    | "(" =>
      let value ← ranked fuel 0 isAsked
      let w ← get
      match w.rest with
      | [] => throw (.unclosed (w.before.headD ""))
      | ")" :: _ =>
        let _ ← take
        return value
      | s :: _ => throw (.unexpected s)
    | ")" => throw .unopened
    | s => return s

end

/-- The value of words. -/
def value (words : List String) : Except Fault String := do
  let (value, w) ← (ranked (16 * (words.length + 2)) 0 true).run ⟨[], words⟩
  match w.rest with
  | [] => return value
  | s :: _ => throw (.unexpected s)

end Expression

/-- Evaluates an expression. -/
def exprJob : Job Int := do
  let words ← arguments
  let words := if words.head? = some "--" then words.tail else words
  if words.isEmpty then misuseWith 2 "missing operand"
  else
    match Expression.value words with
    | .ok value => say (value ++ "\n") (if Expression.isNothing value then 1 else 0)
    | .error fault =>
      complain fault.message
      return 2

end PocketShell.Machine.Utility
