import PocketShell.Machine.Script.ByteText
import PocketShell.Machine.Script.Pattern
import PocketShell.Machine.Script.WordReading

/-!
# Regular expressions

Basic regular expressions: `*` repeats what stands in front of it, and brackets, bounds and
alternatives are written with backslashes. An expression is compared with the start of a text,
which is a list of characters, each with its bytes.

Main definitions: `Regular.ofText`, the expression that a text spells; `Regular.longest?`, the
longest start of a text that an expression stands for.
-/

namespace PocketShell.Machine

open Script (charactersOf codeOf decimal)

/-- A character with its bytes. -/
abbrev Letter := List Char

/-- Regular expressions. -/
inductive Regular where
  | empty
  | one (c : Letter)
  | any
  | among (isNegated : Bool) (holds : Letter → Bool)
  | start
  | finish
  /-- What a group stands for once more. -/
  | again (group : Nat)
  | both (first second : Regular)
  | either (first second : Regular)
  | group (n : Nat) (inner : Regular)
  | times (least : Nat) (most : Option Nat) (inner : Regular)

namespace Regular

/-- How many parts an expression has. -/
def size : Regular → Nat
  | both a b | either a b => a.size + b.size + 1
  | group _ a | times _ _ a => a.size + 1
  | _ => 1

/-- How far a text has been compared: what is left, whether that is all of it, and the texts of
the groups. -/
structure Place where
  rest : List Letter
  isStart : Bool
  groups : List (Nat × List Letter)

/-- The places to which an expression leads from a place, those first that take more. -/
def places : (fuel : Nat) → Regular → Place → List Place
  | 0, _, _ => []
  | _, empty, p => [p]
  | _, one c, p =>
    match p.rest with
    | d :: rest => if c = d then [⟨rest, false, p.groups⟩] else []
    | [] => []
  | _, any, p =>
    match p.rest with
    | _ :: rest => [⟨rest, false, p.groups⟩]
    | [] => []
  | _, among isNegated holds, p =>
    match p.rest with
    | d :: rest => if holds d != isNegated then [⟨rest, false, p.groups⟩] else []
    | [] => []
  | _, start, p => if p.isStart then [p] else []
  | _, finish, p => if p.rest.isEmpty then [p] else []
  | _, again n, p =>
    match p.groups.lookup n with
    | some text =>
      if text.isPrefixOf p.rest then
        [⟨p.rest.drop text.length, p.isStart && text.isEmpty, p.groups⟩]
      else []
    | none => []
  | fuel + 1, both a b, p => (places fuel a p).flatMap (places fuel b)
  | fuel + 1, either a b, p => places fuel a p ++ places fuel b p
  | fuel + 1, group n a, p =>
    (places fuel a p).map fun q =>
      let text := p.rest.take (p.rest.length - q.rest.length)
      { q with groups := (n, text) :: q.groups.filter (·.1 ≠ n) }
  | fuel + 1, times least most a, p =>
    let more :=
      if most = some 0 then []
      else
        ((places fuel a p).filter fun q => q.rest.length < p.rest.length || 0 < least).flatMap
          (places fuel (times (least - 1) (most.map (· - 1)) a))
    if least = 0 then more ++ [p] else more

/-- The place behind the longest start of a text that an expression stands for. -/
def longest? (r : Regular) (text : List Letter) : Option Place :=
  let fuel := (text.length + 2) * (r.size + 2)
  (places fuel r ⟨text, true, []⟩).foldl
    (fun best p =>
      match best with
      | some b => if p.rest.length < b.rest.length then some p else some b
      | none => some p)
    none

/-- A position in the text of an expression: what is left of it, and how many groups have been
opened and closed. -/
structure Scanner where
  rest : List Letter
  opened : Nat
  closed : List Nat

/-- Reading some part of an expression. -/
abbrev Scan := StateT Scanner (Except String)

/-- Whether a character belongs to a named class. Those beyond ASCII count as letters. -/
def inClass (holds : Char → Bool) (name : String) (l : Letter) : Bool :=
  match l with
  | [c] => holds c
  | _ => ["alpha", "alnum", "graph", "print"].contains name

/-- The name between marks inside of brackets, and what follows it. -/
def marked? (mark : Letter) : List Letter → Option (List Letter × List Letter)
  | m :: [']'] :: rest =>
    if m = mark then some ([], rest)
    else (marked? mark ([']'] :: rest)).map fun (cs, rest) => (m :: cs, rest)
  | c :: rest => (marked? mark rest).map fun (cs, rest) => (c :: cs, rest)
  | [] => none

/-- Reads the members between brackets, up to the closing one. -/
def members : (fuel : Nat) → (isFirst : Bool) → List Letter →
    Except String (List (Letter → Bool) × List Letter)
  | 0, _, _ | _, _, [] => throw "Invalid regular expression"
  | fuel + 1, isFirst, c :: rest => do
    if c = [']'] && !isFirst then return ([], rest)
    let inner? : Option (Letter × List Letter × List Letter) :=
      match c, rest with
      | ['['], mark :: behind =>
        if mark = [':'] || mark = ['='] || mark = ['.'] then
          (marked? mark behind).map fun (name, behind) => (mark, name, behind)
        else none
      | _, _ => none
    match inner? with
    | some ([':'], name, behind) =>
      let name := String.ofList name.flatten
      match Script.Pattern.classes.lookup name with
      | none => throw "Invalid character class name"
      | some holds =>
        let (ms, behind) ← members fuel false behind
        return (inClass holds name :: ms, behind)
    | some (_, name, behind) =>
      let (ms, behind) ← members fuel false behind
      return ((fun d => [d] = name) :: ms, behind)
    | none =>
      match rest with
      | ['-'] :: high :: behind =>
        if high = [']'] then
          let (ms, behind) ← members fuel false rest
          return ((fun d => d = c) :: ms, behind)
        else
          if codeOf high < codeOf c then throw "Invalid range end"
          let (ms, behind) ← members fuel false behind
          return ((fun d => codeOf c ≤ codeOf d && codeOf d ≤ codeOf high) :: ms, behind)
      | _ =>
        let (ms, behind) ← members fuel false rest
        return ((fun d => d = c) :: ms, behind)

/-- Goes on with what is left. -/
def advance (rest : List Letter) : Scan Unit := modify ({ · with rest })

/-- The bounds of a repetition, behind the opening bracket, and what follows the closing one. -/
def bounds (cs : List Letter) : Except String (Nat × Option Nat × List Letter) := do
  let digits (cs : List Letter) : List Char := (cs.takeWhile fun c =>
    match c with
    | [c] => c.isDigit
    | _ => false).flatten
  let low := digits cs
  let behind := cs.drop low.length
  let (high, behind) : Option (List Char) × List Letter :=
    match behind with
    | [','] :: behind => (some (digits behind), behind.drop (digits behind).length)
    | _ => (none, behind)
  match behind with
  | ['\\'] :: ['\x7d'] :: rest =>
    let least := decimal low
    match high with
    | none => if low.isEmpty then throw "Invalid content of \\\x7b\\\x7d" else return (least, some least, rest)
    | some [] => return (least, none, rest)
    | some ds =>
      if decimal ds < least then throw "Invalid content of \\\x7b\\\x7d"
      return (least, some (decimal ds), rest)
  | _ => throw "Unmatched \\\x7b"

/-- Applies the repetitions behind a part. -/
def repetitions : (fuel : Nat) → Regular → Scan Regular
  | 0, r => return r
  | fuel + 1, r => do
    match (← get).rest with
    | ['*'] :: rest =>
      advance rest
      repetitions fuel (.times 0 none r)
    | ['\\'] :: ['+'] :: rest =>
      advance rest
      repetitions fuel (.times 1 none r)
    | ['\\'] :: ['?'] :: rest =>
      advance rest
      repetitions fuel (.times 0 (some 1) r)
    | ['\\'] :: ['\x7b'] :: rest =>
      let (least, most, rest) ← (bounds rest : Except String _)
      advance rest
      repetitions fuel (.times least most r)
    | _ => return r

/-- Whether nothing but the end of an alternative follows. -/
def endsPart : List Letter → Bool
  | [] | ['\\'] :: [')'] :: _ | ['\\'] :: ['|'] :: _ => true
  | _ => false

mutual

/-- Reads alternatives. -/
def alternatives : (fuel : Nat) → Scan Regular
  | 0 => return .empty
  | fuel + 1 => do
    let first ← parts fuel true
    match (← get).rest with
    | ['\\'] :: ['|'] :: rest =>
      advance rest
      return .either first (← alternatives fuel)
    | _ => return first

/-- Reads what stands one behind the other. -/
def parts : (fuel : Nat) → (isFirst : Bool) → Scan Regular
  | 0, _ => return .empty
  | fuel + 1, isFirst => do
    let s ← get
    if endsPart s.rest then return .empty
    match s.rest with
    | ['^'] :: rest =>
      if isFirst then
        advance rest
        return .both .start (← parts fuel true)
      else ordinary fuel (.one ['^']) rest
    | ['$'] :: rest =>
      if endsPart rest then
        advance rest
        return .both .finish (← parts fuel false)
      else ordinary fuel (.one ['$']) rest
    | ['.'] :: rest => ordinary fuel .any rest
    | ['['] :: rest =>
      let (isNegated, inside) :=
        match rest with
        | ['^'] :: inside => (true, inside)
        | _ => (false, rest)
      let (ms, behind) ← (members (inside.length + 1) true inside : Except String _)
      ordinary fuel (.among isNegated fun c => ms.any fun holds => holds c) behind
    | ['\\'] :: ['('] :: rest =>
      let n := s.opened + 1
      set { s with rest, opened := n }
      let inner ← alternatives fuel
      match (← get).rest with
      | ['\\'] :: [')'] :: rest =>
        modify fun s => { s with closed := n :: s.closed }
        ordinary fuel (.group n inner) rest
      | _ => throw "Unmatched ( or \\("
    | ['\\'] :: [c] :: rest =>
      if c.isDigit && c != '0' then
        let n := c.toNat - '0'.toNat
        if !s.closed.contains n then throw "Invalid back reference"
        ordinary fuel (.again n) rest
      else if c == '\x7b' then throw "Invalid preceding regular expression"
      else ordinary fuel (.one [c]) rest
    | [['\\']] => throw "Trailing backslash"
    | c :: rest => ordinary fuel (.one c) rest
    | [] => return .empty

/-- Goes on behind a part that can be repeated. -/
def ordinary (fuel : Nat) (r : Regular) (rest : List Letter) : Scan Regular :=
  match fuel with
  | 0 => return r
  | fuel + 1 => do
    advance rest
    let r ← repetitions (rest.length + 1) r
    return .both r (← parts fuel false)

end

/-- The expression that a text spells, and how many groups it has. -/
def ofText (text : String) : Except String (Regular × Nat) := do
  let letters := charactersOf text
  let (r, s) ← (alternatives (3 * letters.length + 3)).run ⟨letters, 0, []⟩
  if !s.rest.isEmpty then throw "Unmatched ) or \\)"
  return (r, s.opened)

end Regular

end PocketShell.Machine
