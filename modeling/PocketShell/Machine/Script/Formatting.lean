import PocketShell.Machine.Number
import PocketShell.Machine.Script.Escape
import PocketShell.Machine.Script.Sum

/-!
# Formatted text

What `printf` writes: a format with its directives replaced by arguments, again and again as
long as there are arguments left.
-/

namespace PocketShell.Machine.Script

/-- A directive of a format. -/
structure Directive where
  flags : List Char
  width : Nat
  precision : Option Nat
  kind : Char

namespace Directive

/-- Whether a flag is given. -/
def has (d : Directive) (flag : Char) : Bool := d.flags.contains flag

/-- A text made as wide as asked for, with spaces. -/
def padded (d : Directive) (s : String) : String :=
  let gap := String.ofList (List.replicate (d.width - s.length) ' ')
  if d.has '-' then s ++ gap else gap ++ s

/-- A sign and digits made as wide as asked for, with zeros between them on request. -/
def paddedNumber (d : Directive) (sign digits : String) (allowsZeros : Bool) : String :=
  if allowsZeros && d.has '0' && !d.has '-' then
    sign ++ String.ofList (List.replicate (d.width - sign.length - digits.length) '0') ++ digits
  else d.padded (sign ++ digits)

/-- The sign that stands in front of a number. -/
def sign (d : Directive) (isNegative : Bool) : String :=
  if isNegative then "-" else if d.has '+' then "+" else if d.has ' ' then " " else ""

/-- At least as many digits as the precision asks for. -/
def digits (d : Directive) (ds : List Char) : List Char :=
  match d.precision with
  | none => ds
  | some p => if ds = ['0'] && p = 0 then [] else List.replicate (p - ds.length) '0' ++ ds

/-- An integer as a directive writes it. -/
def integer (d : Directive) (n : Int) : String :=
  let isPlain := d.precision.isNone
  match d.kind with
  | 'd' | 'i' =>
    d.paddedNumber (d.sign (n < 0)) (String.ofList (d.digits (Nat.toDigits 10 n.natAbs))) isPlain
  | kind =>
    let m := (n % Nat.pow 2 64).toNat
    match kind with
    | 'o' =>
      let ds := d.digits (Nat.toDigits 8 m)
      let ds := if d.has '#' && ds.head? ≠ some '0' then '0' :: ds else ds
      d.paddedNumber "" (String.ofList ds) isPlain
    | 'x' | 'X' =>
      let ds := String.ofList (d.digits (Nat.toDigits 16 m))
      let start := if d.has '#' && m ≠ 0 then "0x" else ""
      let text := d.paddedNumber start ds isPlain
      if kind = 'X' then text.toUpper else text
    | _ => d.paddedNumber "" (String.ofList (d.digits (Nat.toDigits 10 m))) isPlain

end Directive

/-- A number as a directive for numbers with a point writes it. -/
def Directive.number (d : Directive) (f : Binary) (n : Number) : String :=
  let layout : Layout := ⟨d.kind, d.precision, d.has '#'⟩
  let isFinite := match n.size with
    | .finite _ _ => true
    | _ => false
  let text := layout.text f n.size
  let sign := d.sign n.isNegative
  if d.kind.toLower == 'a' && isFinite then
    d.paddedNumber (sign ++ (text.take 2).toString) (text.drop 2).toString true
  else d.paddedNumber sign text isFinite

/-- What is wrong with an argument that has to be a number. -/
inductive NumberFault where
  | missing
  | incomplete
  | outOfRange
  deriving DecidableEq

/-- Formatted text while it is put together. -/
structure Formatted where
  text : String
  /-- The arguments that are left. -/
  left : List String
  /-- Arguments and what is wrong with them, the last first. -/
  complaints : List (String × NumberFault)
  /-- Nothing is written any more, and why, if that is a fault. -/
  ending : Option (Option String)

namespace Formatted

/-- Takes the next argument. -/
def take (f : Formatted) : Option String × Formatted := (f.left.head?, { f with left := f.left.tail })

/-- Adds text. -/
def add (f : Formatted) (s : String) : Formatted := { f with text := f.text ++ s }

/-- Complains about an argument. -/
def complain (f : Formatted) (argument : String) (fault : NumberFault) : Formatted :=
  { f with complaints := (argument, fault) :: f.complaints }

/-- Adds a complaint about an argument if it is no number, if `rest` follows the number, or if
that is out of range. Of the last two faults, `rangeFirst` tells which one is told. -/
def check (f : Formatted) (rangeFirst : Bool) (argument : String) (rest : Option (List Char))
    (isOut : Bool) : Formatted :=
  match rest with
  | none => if argument.isEmpty then f else f.complain argument .missing
  | some rest =>
    if isOut && (rangeFirst || rest.isEmpty) then f.complain argument .outOfRange
    else if rest.isEmpty then f
    else f.complain argument .incomplete

/-- The nearest of the numbers that an integer directive can write. -/
def nearest (isSigned : Bool) (n : Int) : Int :=
  if isSigned then Sum.clamp n else if n.natAbs < Nat.pow 2 64 then n else Nat.pow 2 64 - 1

/-- The integer that an argument is, with a complaint if it is none. -/
def integerOf (f : Formatted) (rangeFirst isSigned : Bool) (s : String) : Int × Formatted :=
  match Sum.unbounded? s with
  | some (n, rest) =>
    let m := nearest isSigned n
    (m, f.check rangeFirst s (some rest) (m ≠ n))
  | none => (0, f.check rangeFirst s none false)

/-- The number that an argument is, with a complaint if it is none. -/
def numberOf (f : Formatted) (rangeFirst : Bool) (format : Binary) (s : String) :
    Number × Formatted :=
  match format.read s with
  | some (n, isOut, rest) => (n, f.check rangeFirst s (some rest) isOut)
  | none => (.zero, f.check rangeFirst s none false)

/-- The number of the character behind a quotation mark, if an argument starts with one. -/
def quotedCharacter? (s : String) : Option Nat :=
  match s.toList with
  | '\'' :: cs | '"' :: cs => some ((cs.head?.map Char.toNat).getD 0)
  | _ => none

/-- Takes an argument that is an integer. -/
def takeInteger (f : Formatted) (isSigned : Bool) : Int × Formatted :=
  match f.take with
  | (none, f) => (0, f)
  | (some s, f) =>
    match quotedCharacter? s with
    | some n => (n, f)
    | none => f.integerOf false isSigned s

/-- Takes an argument that is a number with a point. -/
def takeNumber (f : Formatted) : Number × Formatted :=
  match f.take with
  | (none, f) => (.zero, f)
  | (some s, f) =>
    match quotedCharacter? s with
    | some n => (⟨false, .finite n 1⟩, f)
    | none => f.numberOf false .double s

/-- Takes a width or a precision, which an asterisk leaves to an argument. -/
def takeSize (f : Formatted) : List Char → Option Int × List Char × Formatted
  | '*' :: rest =>
    let (n, f) := f.takeInteger true
    (some n, rest, f)
  | cs =>
    let ds := cs.takeWhile (·.isDigit)
    (if ds.isEmpty then none else some (decimal ds), cs.drop ds.length, f)

/-- Carries out a directive. -/
def carryOut (f : Formatted) (d : Directive) (written : String) : Formatted :=
  match d.kind with
  | 'b' =>
    let (s, f) := f.take
    let cs := (s.getD "").toList
    let (text, stops) := unescape (cs.length + 1) cs
    let text := match d.precision with | some p => text.take p | none => text
    let f := f.add (d.padded (String.ofList text))
    if stops then { f with ending := some none } else f
  | 'c' =>
    let (s, f) := f.take
    f.add (d.padded (String.singleton ((s.getD "").toList.headD '\x00')))
  | 's' =>
    let (s, f) := f.take
    let text := (s.getD "").toList
    let text := match d.precision with | some p => text.take p | none => text
    f.add (d.padded (String.ofList text))
  | 'd' | 'i' =>
    let (n, f) := f.takeInteger true
    f.add (d.integer n)
  | 'o' | 'u' | 'x' | 'X' =>
    let (n, f) := f.takeInteger false
    f.add (d.integer n)
  | 'a' | 'A' | 'e' | 'E' | 'f' | 'F' | 'g' | 'G' =>
    let (n, f) := f.takeNumber
    f.add (d.number .double n)
  | _ => { f with ending := some (some (written ++ ": invalid directive")) }

/-- Goes through the format once. -/
def pass : (fuel : Nat) → List Char → Formatted → Formatted
  | 0, _, f => f
  | _, [], f => f
  | fuel + 1, '%' :: '%' :: rest, f => pass fuel rest (f.add "%")
  | fuel + 1, '%' :: rest, f =>
    let flags := rest.takeWhile fun c => ['#', '-', '+', ' ', '0'].contains c
    let (width, behind, f) := f.takeSize (rest.drop flags.length)
    let (precision, behind, f) :=
      match behind with
      | '.' :: behind =>
        let (p, behind, f) := f.takeSize behind
        (if p.any (· < 0) then none else some (p.getD 0).toNat, behind, f)
      | _ => (none, behind, f)
    match behind with
    | [] => { f with ending := some (some "missing format character") }
    | kind :: behind =>
      let flags := if width.any (· < 0) then '-' :: flags else flags
      let written := '%' :: rest.take (rest.length - behind.length)
      let f := f.carryOut ⟨flags, (width.getD 0).natAbs, precision, kind⟩ (String.ofList written)
      if f.ending.isSome then f else pass fuel behind f
  | fuel + 1, '\\' :: rest, f =>
    let (c, rest) := escaped rest
    pass fuel rest (f.add (String.singleton c))
  | fuel + 1, c :: rest, f => pass fuel rest (f.add (String.singleton c))

/-- Goes through the format as long as that uses up arguments. -/
def passes (format : List Char) : (fuel : Nat) → Formatted → Formatted
  | 0, f => f
  | fuel + 1, f =>
    let next := pass (format.length + 1) format f
    if next.ending.isSome || next.left.isEmpty || next.left.length = f.left.length then next
    else passes format fuel next

end Formatted

/-- What `printf` writes. -/
def formatted (format : String) (arguments : List String) : Formatted :=
  Formatted.passes format.toList (arguments.length + 1) ⟨"", arguments, [], none⟩

end PocketShell.Machine.Script
