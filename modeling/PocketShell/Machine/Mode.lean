/-!
# Modes

The bits that say what a node lets its owner, its group and others do, and how they are written:
as octal digits, or as clauses like `go-w` that change a mode.
-/

namespace PocketShell.Machine.Mode

/-- The bits for owner, group and others. -/
def plain : Nat := 0o777

/-- All bits of a mode: those and the three with special meanings. -/
def all : Nat := 0o7777

/-- The number that octal digits stand for. -/
def ofOctal? (s : String) : Option Nat :=
  let ds := s.toList
  if !ds.isEmpty && ds.all fun c => '0' ≤ c && c ≤ '7' then
    some (ds.foldl (fun n c => 8 * n + (c.toNat - '0'.toNat)) 0)
  else none

/-- A mode in at least four octal digits. -/
def octalText (mode : Nat) : String :=
  let ds := Nat.toDigits 8 mode
  String.ofList (List.replicate (4 - ds.length) '0' ++ ds)

/-- What a mode permits to those whose bits start at a place. -/
def symbolsAt (mode place : Nat) : String :=
  let bit (n : Nat) (s : String) := if mode.testBit (place + n) then s else ""
  bit 2 "r" ++ bit 1 "w" ++ bit 0 "x"

/-- A mode as clauses. -/
def symbols (mode : Nat) : String :=
  "u=" ++ symbolsAt mode 6 ++ ",g=" ++ symbolsAt mode 3 ++ ",o=" ++ symbolsAt mode 0

/-- A mode as the nine signs that lists of files have. -/
def signs (mode : Nat) : String :=
  let triple (place special : Nat) (low high : String) : String :=
    let bit (n : Nat) (s : String) := if mode.testBit (place + n) then s else "-"
    let x := mode.testBit place
    bit 2 "r" ++ bit 1 "w" ++
      if mode.testBit special then (if x then low else high) else if x then "x" else "-"
  triple 6 11 "s" "S" ++ triple 3 10 "s" "S" ++ triple 0 9 "t" "T"

/-- The bits of those whom a letter names. -/
def reach : Char → Nat
  | 'u' => 0o4700
  | 'g' => 0o2070
  | 'o' => 0o1007
  | _ => all

/-- The permissions that those whose bits start at a place have, given to everybody. -/
def spread (mode place : Nat) : Nat := (mode >>> place &&& 7) * 0o111

/-- What is changed by clauses: the mode of a node, or the permissions that a mask leaves. -/
inductive Subject where
  | node
  | mask
  deriving DecidableEq

/-- The bits that a letter stands for when a mode is changed. Those for what somebody is permitted
refer to a source. -/
def bitsOf? (subject : Subject) (source mode : Nat) (isDirectory : Bool) : Char → Option Nat
  | 'r' => some 0o444
  | 'w' => some 0o222
  | 'x' => some 0o111
  | 'X' => some (if isDirectory || mode &&& 0o111 ≠ 0 then 0o111 else 0)
  | 's' => some 0o6000
  | 't' => if subject = .node then some 0o1000 else none
  | 'u' => some (spread source 6)
  | 'g' => some (spread source 3)
  | 'o' => some (spread source 0)
  | _ => none

/-- Whether a letter stands for what somebody is permitted already. -/
def isCopy (c : Char) : Bool := ['u', 'g', 'o'].contains c

/-- Parts of a text that start with a sign each, or `none` if something stands in front of the
first sign. -/
def signed? (text : List Char) : Option (List (Char × List Char)) :=
  let (letters, parts) := text.foldr (fun c (letters, parts) =>
    if ['+', '-', '='].contains c then ([], (c, letters) :: parts) else (c :: letters, parts))
    ([], [])
  if letters.isEmpty then some parts else none

/-- The bits that the letters behind a sign stand for. For a node, octal digits can stand there,
and letters for what somebody is permitted stand alone. -/
def bitsOfAll? (subject : Subject) (source mode : Nat) (isDirectory : Bool)
    (who letters : List Char) : Option Nat :=
  let isStrict := subject = .node
  if isStrict && who.isEmpty && (ofOctal? (String.ofList letters)).isSome then
    ofOctal? (String.ofList letters)
  else if isStrict && 1 < letters.length && letters.any isCopy then none
  else letters.foldlM (fun bits c => do
    return bits ||| (← bitsOf? subject source mode isDirectory c)) 0

/-- A mode after a clause. One that names nobody is for all, except for the bits of a mask. For a
mask, the last clause can do without a sign, and letters for what somebody is permitted refer to
the start. -/
def afterClause? (subject : Subject) (mask start mode : Nat) (isDirectory isLast : Bool)
    (clause : List Char) : Option Nat := do
  let who := clause.takeWhile (['u', 'g', 'o', 'a'].contains ·)
  let parts ← signed? (clause.drop who.length)
  if parts.isEmpty && !(subject = .mask && isLast) then none
  let limit := if who.isEmpty then all else who.foldl (fun n c => n ||| reach c) 0
  parts.foldlM (fun mode (sign, letters) => do
    let source := if subject = .mask then start else mode
    let bits ← bitsOfAll? subject source mode isDirectory who letters
    let bits := bits &&& limit &&& if who.isEmpty then all ^^^ mask else all
    return match sign with
      | '+' => mode ||| bits
      | '-' => mode &&& (all ^^^ bits)
      | _ => mode &&& (all ^^^ limit) ||| bits) mode

/-- A mode after clauses with commas between them. -/
def changed? (subject : Subject) (mask start : Nat) (isDirectory : Bool) (s : String) :
    Option Nat :=
  let clauses := s.splitOn ","
  clauses.zipIdx.foldlM (fun mode (clause, n) =>
    afterClause? subject mask start mode isDirectory (n + 1 = clauses.length) clause.toList) start

end PocketShell.Machine.Mode
