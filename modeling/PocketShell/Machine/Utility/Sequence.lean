import PocketShell.Machine.Utility.Printing
import PocketShell.Machine.Utility.Request

/-!
# Sequences of numbers

`seq` writes the numbers from one to another. They are exact decimal fractions, written with as
many places as the first number and the step have.
-/

namespace PocketShell.Machine.Utility

open Script (decimal toBytes)
open Text (Bytes)
open Job

/-- A decimal fraction: a whole number without its point, and how many places it has. -/
structure Fraction where
  whole : Int
  places : Nat

namespace Fraction

/-- A fraction with more places. -/
def widened (q : Fraction) (places : Nat) : Int := q.whole * Nat.pow 10 (places - q.places)

/-- The fraction that a text is. -/
def ofText? (s : String) : Option Fraction := do
  let cs := s.toList.dropWhile fun c => c == ' ' || ('\t' ≤ c && c ≤ '\r')
  let (isNegative, cs) :=
    match cs with
    | '-' :: cs => (true, cs)
    | '+' :: cs => (false, cs)
    | _ => (false, cs)
  let sign (n : Nat) : Int := if isNegative then -n else n
  match cs with
  | '0' :: x :: d :: ds =>
    if x == 'x' || x == 'X' then
      if (d :: ds).all fun c => Script.Sum.digit c < 16 then
        return ⟨sign (hexValue (d :: ds)), 0⟩
      else none
    else decimalOf sign cs
  | _ => decimalOf sign cs
where
  /-- The fraction that decimal digits with a point and an exponent are. -/
  decimalOf (sign : Nat → Int) (cs : List Char) : Option Fraction := do
    let (ds, places, rest) ← Binary.scanDigits Char.isDigit cs
    let (e, rest) := Binary.scanExponent 'e' rest
    if !rest.isEmpty || 5000 < e.natAbs then none
    else
      let n := decimal ds
      if 0 ≤ e then
        let up := e.toNat
        return ⟨sign (n * Nat.pow 10 (up - places)), places - up⟩
      else return ⟨sign n, places + e.natAbs⟩

/-- A number that no sequence gets to. -/
def unreachable : Fraction := ⟨Nat.pow 10 40, 0⟩

/-- The fraction that a text is. One without bound counts as one that is out of reach. -/
def ofEnd? (s : String) : Option Fraction :=
  let name := s.toLower
  if ["inf", "+inf", "infinity", "+infinity"].contains name then some unreachable
  else if ["-inf", "-infinity"].contains name then
    some { unreachable with whole := -unreachable.whole }
  else ofText? s

/-- A fraction with all its places. -/
def shown (n : Int) (places : Nat) : String :=
  let l : Machine.Layout := ⟨'f', none, false⟩
  (if n < 0 then "-" else "") ++ l.fixed n.natAbs (Nat.pow 10 places) places

end Fraction

/-- The part of a format in front of its directive, the directive and the rest, or what is wrong
with it. -/
def numberFormat (s : String) :
    Except String (String × Script.Directive × String) := do
  let rec findPercent : List Char → List Char → Option (List Char × List Char)
    | _, [] => none
    | before, '%' :: '%' :: rest => findPercent ('%' :: before) rest
    | before, '%' :: rest => some (before.reverse, rest)
    | before, c :: rest => findPercent (c :: before) rest
  match findPercent [] s.toList with
  | none => throw ("format " ++ curly s ++ " has no % directive")
  | some (before, cs) =>
    let flags := cs.takeWhile fun c => ['-', '+', '#', '0', ' ', '\''].contains c
    let cs := cs.drop flags.length
    let width := cs.takeWhile Char.isDigit
    let cs := cs.drop width.length
    let (precision, cs) :=
      match cs with
      | '.' :: cs => (some (decimal (cs.takeWhile Char.isDigit)), cs.dropWhile Char.isDigit)
      | _ => (none, cs)
    let cs := if cs.head? = some 'L' then cs.tail else cs
    match cs with
    | [] => throw ("format " ++ curly s ++ " ends in %")
    | kind :: rest =>
      if !"efgaEFGA".toList.contains kind then
        throw ("format " ++ curly s ++ " has unknown %" ++ String.singleton kind ++ " directive")
      match findPercent [] rest with
      | some _ => throw ("format " ++ curly s ++ " has too many % directives")
      | none =>
        let behind := String.ofList (Printf.withoutDoubles rest)
        return (String.ofList before, ⟨flags, decimal width, precision, kind⟩, behind)

/-- The options of `seq`. -/
def seqChoices : List Choice :=
  [.withValue 'f' ["format"], .withValue 's' ["separator"], .flag 'w' ["equal-width"]]

/-- The arguments up to the first that starts like a negative number, and the rest. -/
def beforeNumbers : List String → List String × List String
  | [] => ([], [])
  | s :: rest =>
    match s.toList with
    | '-' :: c :: _ =>
      if c == '.' || c.isDigit then ([], s :: rest)
      else
        let (options, numbers) := beforeNumbers rest
        (s :: options, numbers)
    | _ =>
      let (options, numbers) := beforeNumbers rest
      (s :: options, numbers)

/-- How many numbers are written at once, and how often that is done. -/
def blockLength : Nat := 1000
@[inherit_doc blockLength] def blockLimit : Nat := 4000

/-- Writes numbers from one to another. -/
def seqJob : Job Int := do
  let (words, numbers) := beforeNumbers (← arguments)
  match Request.take seqChoices true none words with
  | .error complaint => misuse complaint
  | .ok r =>
    let operands := r.operands ++ numbers
    let format := (r.value? 'f').map numberFormat
    if operands.isEmpty then misuse "missing operand"
    else if 3 < operands.length then misuse ("extra operand " ++ curly (operands.getD 3 ""))
    else
      match format with
      | some (.error complaint) =>
        complain complaint
        return 1
      | format =>
        if format.isSome && r.has 'w' then
          misuse "format string may not be specified when printing equal width strings"
        else
          let isNan (s : String) : Bool := (Binary.extended.read s).any fun (n, _, rest) =>
            n.size = .undefined && rest.isEmpty
          let ends := operands.getLast?.toList
          match operands.dropLast.find? (fun s => (Fraction.ofText? s).isNone) <|>
              ends.find? (fun s => (Fraction.ofEnd? s).isNone) with
          | some s =>
            if isNan s then misuse ("invalid " ++ curly "not-a-number" ++ " argument: " ++ curly s)
            else misuse ("invalid floating point argument: " ++ curly s)
          | none =>
            let qs := operands.dropLast.filterMap Fraction.ofText? ++ ends.filterMap Fraction.ofEnd?
            let one : Fraction := ⟨1, 0⟩
            let (first, step, last) :=
              match qs with
              | [last] => (one, one, last)
              | [first, last] => (first, one, last)
              | first :: step :: last :: _ => (first, step, last)
              | [] => (one, one, one)
            if step.whole = 0 then
              misuse ("invalid Zero increment value: " ++ curly (operands.getD 1 ""))
            else
              match ← writeNumbers r format first step last with
              | none => return 0
              | some e =>
                complainOfWriting e
                return 1
where
  /-- Writes the numbers, in blocks. -/
  writeNumbers (r : Request) (format : Option (Except String (String × Script.Directive × String)))
      (first step last : Fraction) : Job (Option Errno) := do
    let places := max first.places step.places
    let all := max places last.places
    let a := first.widened all
    let d := step.widened all
    let z := last.widened all
    let count := (if 0 < d then (z - a) / d + 1 else (a - z) / (-d) + 1).toNat
    let plain (n : Int) : String := Fraction.shown (n / Nat.pow 10 (all - places)) places
    let width := ([plain a, plain z].map (·.length)).foldl max 0
    let text (n : Int) : String :=
      match format with
      | some (.ok (before, directive, behind)) =>
        let size := (Binary.extended.round n.natAbs (Nat.pow 10 all)).1
        before ++ directive.number .extended ⟨n < 0, size⟩ ++ behind
      | _ =>
        let s := plain n
        if !r.has 'w' then s
        else
          let sign := if s.startsWith "-" then "-" else ""
          let digits := (s.drop sign.length).toString
          sign ++ String.ofList (List.replicate (width - s.length) '0') ++ digits
    let separator := (r.value? 's').getD "\n"
    let block (n : Nat) : Bytes :=
      let start := n * blockLength
      let texts := (List.range (min blockLength (count - start))).map fun (i : Nat) =>
        text (a + d * (start + i : Nat)) ++
          if start + i + 1 = count then "\n" else separator
      toBytes (String.join texts)
    let blocks := min blockLimit ((count + blockLength - 1) / blockLength)
    writeBlocks blocks block fun _ => 100

end PocketShell.Machine.Utility
