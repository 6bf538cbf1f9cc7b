import PocketShell.Machine.Script.WordReading

/-!
# Numbers with a point

Numbers as programs read and write them: read from decimal or hexadecimal digits, rounded to a
binary format, and written with places, with a power of ten, or in hexadecimal digits.

Main definitions: `Binary.round`, the nearest number of a format; `Binary.read`, the number that a
text starts with; `Layout.text`, a number as a directive writes it.
-/

namespace PocketShell.Machine

open Script (decimal)

/-- The quotient of two numbers, rounded to the nearest, a half to the even one. -/
def roundedQuotient (a b : Nat) : Nat :=
  let q := a / b
  let r := a % b
  if 2 * r < b then q else if b < 2 * r then q + 1 else if q % 2 = 0 then q else q + 1

/-- A quotient times a power of a base, rounded. -/
def scaled (base a b : Nat) (power : Int) : Nat :=
  if 0 ≤ power then roundedQuotient (a * Nat.pow base power.toNat) b
  else roundedQuotient a (b * Nat.pow base power.natAbs)

/-- How many digits a number has. -/
def digitCount (base n : Nat) : Nat := (Nat.toDigits base n).length

/-- The sizes of numbers without a sign. -/
inductive Magnitude where
  | finite (numerator denominator : Nat)
  | infinite
  | undefined
  deriving DecidableEq, Repr

/-- A number. -/
structure Number where
  isNegative : Bool
  size : Magnitude
  deriving DecidableEq, Repr

/-- The number nothing. -/
def Number.zero : Number := ⟨false, .finite 0 1⟩

/-- A binary format: how many bits its numbers have, the least power of two, and the power of two
that its numbers stay below. -/
structure Binary where
  bits : Nat
  least : Int
  bound : Int

namespace Binary

/-- Numbers of double precision. -/
def double : Binary := ⟨53, -1074, 1024⟩

/-- Numbers of extended precision. -/
def extended : Binary := ⟨64, -16445, 16384⟩

/-- A number of a format as a whole number of bits and a power of two. Only the least numbers
have fewer bits than the format. -/
def parts (f : Binary) (a b : Nat) : Nat × Int :=
  if a = 0 then (0, 0)
  else
    let guess : Int := (Nat.log2 a : Int) - Nat.log2 b - f.bits
    let power := max f.least guess
    let m := scaled 2 a b (-power)
    -- the guess is at most two too small
    if m < Nat.pow 2 f.bits then (m, power)
    else
      let power := max f.least (guess + 1)
      let m := scaled 2 a b (-power)
      if m < Nat.pow 2 f.bits then (m, power)
      else
        let power := max f.least (guess + 2)
        (scaled 2 a b (-power), power)

/-- The quotient that bits and a power of two are. -/
def quotient (m : Nat) (power : Int) : Nat × Nat :=
  if 0 ≤ power then (m * Nat.pow 2 power.toNat, 1) else (m, Nat.pow 2 power.natAbs)

/-- The number of a format that is nearest to a quotient, and whether it is out of range: too
big, or rounded although it is among the least. -/
def round (f : Binary) (a b : Nat) : Magnitude × Bool :=
  let (m, power) := f.parts a b
  if f.bound < power + (digitCount 2 m : Int) then (.infinite, true)
  else
    let (n, d) := quotient m power
    let isSmall := m < Nat.pow 2 (f.bits - 1) && a != 0
    (.finite n d, isSmall && n * b != a * d)

/-- Digits with a point in them: the whole number without the point, how many places it has, and
what follows. -/
def scanDigits (isDigit : Char → Bool) (cs : List Char) : Option (List Char × Nat × List Char) :=
  let whole := cs.takeWhile isDigit
  let (places, rest) :=
    match cs.dropWhile isDigit with
    | '.' :: rest => (rest.takeWhile isDigit, rest.dropWhile isDigit)
    | rest => ([], rest)
  if whole.isEmpty && places.isEmpty then none
  else some (whole ++ places, places.length, rest)

/-- The exponent behind a letter, and what follows. Without digits there is none. -/
def scanExponent (letter : Char) (cs : List Char) : Int × List Char :=
  match cs with
  | c :: rest =>
    let (isDown, ds) :=
      match rest with
      | '-' :: ds => (true, ds)
      | '+' :: ds => (false, ds)
      | ds => (false, ds)
    if c.toLower == letter && ds.head?.any Char.isDigit then
      let n := decimal (ds.takeWhile Char.isDigit)
      (if isDown then -(n : Int) else n, ds.dropWhile Char.isDigit)
    else (0, cs)
  | [] => (0, [])

/-- The greatest power that is worth being carried out. -/
def powerLimit : Int := 100000

/-- The nearest number to a whole number times a power of a base. -/
def scale (f : Binary) (base n : Nat) (power : Int) : Magnitude × Bool :=
  if n = 0 then (.finite 0 1, false)
  else if powerLimit < power then (.infinite, true)
  else if power < -powerLimit - digitCount 10 n then (.finite 0 1, true)
  else if 0 ≤ power then f.round (n * Nat.pow base power.toNat) 1
  else f.round n (Nat.pow base power.natAbs)

/-- Whether a text starts with a word, in any case of its letters. -/
def startsWith (word : String) (cs : List Char) : Bool :=
  word.toList.isPrefixOf (cs.map Char.toLower)

/-- The size of the number that a text without a sign starts with, whether it is out of range, and
what follows it. -/
def readSize (f : Binary) (cs : List Char) : Option (Magnitude × Bool × List Char) :=
  if startsWith "infinity" cs then some (.infinite, false, cs.drop 8)
  else if startsWith "inf" cs then some (.infinite, false, cs.drop 3)
  else if startsWith "nan" cs then
    let behind :=
      match cs.drop 3 with
      | '(' :: rest =>
        match rest.dropWhile fun c => c.isAlphanum || c == '_' with
        | ')' :: rest => rest
        | _ => cs.drop 3
      | rest => rest
    some (.undefined, false, behind)
  else
    let isHex (c : Char) := c.isDigit || ('a' ≤ c.toLower && c.toLower ≤ 'f')
    let hexadecimal :=
      if startsWith "0x" cs then scanDigits isHex (cs.drop 2) else none
    match hexadecimal with
    | some (ds, places, rest) =>
      let value (c : Char) := if c.isDigit then c.toNat - 48 else c.toLower.toNat - 87
      let n := ds.foldl (fun n c => 16 * n + value c) 0
      let (e, rest) := scanExponent 'p' rest
      let (size, isOut) := f.scale 2 n (e - 4 * (places : Int))
      some (size, isOut, rest)
    | none => do
      let (ds, places, rest) ← scanDigits Char.isDigit cs
      let (e, rest) := scanExponent 'e' rest
      let (size, isOut) := f.scale 10 (decimal ds) (e - (places : Int))
      return (size, isOut, rest)

/-- The number that a text starts with, blanks in front and a sign allowed, whether it is out of
range, and what follows it. -/
def read (f : Binary) (s : String) : Option (Number × Bool × List Char) := do
  let cs := s.toList.dropWhile fun c => c == ' ' || ('\t' ≤ c && c ≤ '\r')
  let (isNegative, cs) :=
    match cs with
    | '-' :: cs => (true, cs)
    | '+' :: cs => (false, cs)
    | _ => (false, cs)
  let (size, isOut, rest) ← f.readSize cs
  return (⟨isNegative, size⟩, isOut, rest)

end Binary

/-- How a number is written: the letter of the form, how many places or figures it has, and
whether a point and zeros at the end are kept in any case. -/
structure Layout where
  form : Char
  precision : Option Nat
  isFull : Bool

namespace Layout

/-- Digits with a point in front of the last ones. -/
def withPoint (l : Layout) (whole places : List Char) : String :=
  String.ofList whole ++
    if places.isEmpty && !l.isFull then "" else "." ++ String.ofList places

/-- A quotient with a number of decimal places. -/
def fixed (l : Layout) (a b places : Nat) : String :=
  let ds := Nat.toDigits 10 (roundedQuotient (a * Nat.pow 10 places) b)
  let ds := List.replicate (places + 1 - ds.length) '0' ++ ds
  l.withPoint (ds.take (ds.length - places)) (ds.drop (ds.length - places))

/-- The power of ten that a positive quotient lies at or above. -/
def order (a b : Nat) : Int :=
  let guess : Int := (digitCount 10 a : Int) - digitCount 10 b
  let isBelow :=
    if 0 ≤ guess then a < b * Nat.pow 10 guess.toNat else a * Nat.pow 10 guess.natAbs < b
  if isBelow then guess - 1 else guess

/-- The digits and the power of ten of a quotient with a number of places behind the first
digit. -/
def scientific (a b places : Nat) : List Char × Int :=
  if a = 0 then (List.replicate (places + 1) '0', 0)
  else
    let e := order a b
    let n := scaled 10 a b (places - e)
    if n < Nat.pow 10 (places + 1) then (Nat.toDigits 10 n, e)
    else (Nat.toDigits 10 (scaled 10 a b (places - e - 1)), e + 1)

/-- Digits with one in front of the point, and a power of ten. -/
def withPower (l : Layout) (ds : List Char) (e : Int) : String :=
  let power := Nat.toDigits 10 e.natAbs
  let power := List.replicate (2 - power.length) '0' ++ power
  l.withPoint (ds.take 1) ds.tail ++ "e" ++ (if e < 0 then "-" else "+") ++ String.ofList power

/-- Digits without the zeros at their end, of which the first stays. -/
def withoutZeros (ds : List Char) : List Char :=
  ds.take (max 1 (ds.reverse.dropWhile (· == '0')).length)

/-- A quotient with a number of figures, in the shorter of two forms. -/
def general (l : Layout) (a b figures : Nat) : String :=
  let (ds, e) := scientific a b (figures - 1)
  let short := if l.isFull then ds else withoutZeros ds
  if e < -4 || (figures : Int) ≤ e then l.withPower short e
  else if e < 0 then l.withPoint ['0'] (List.replicate (e.natAbs - 1) '0' ++ short)
  else l.withPoint (ds.take (e.toNat + 1)) (short.drop (e.toNat + 1))

/-- A number of a format in hexadecimal digits and a power of two. In front of the point stand as
many bits as fill a digit, or one if the bits do not come out even. -/
def hexadecimal (l : Layout) (f : Binary) (a b : Nat) : String :=
  let (m, power) := f.parts a b
  let places := (f.bits - 1) / 4
  let (m, power) : Nat × Int :=
    if m = 0 then (0, 0) else (m, power + 4 * (places : Int))
  let cut := match l.precision with
    | some p => places - p
    | none => 0
  let n := roundedQuotient m (Nat.pow 16 cut)
  let ds := Nat.toDigits 16 n
  let kept := places - cut
  let ds := List.replicate (kept + 1 - ds.length) '0' ++ ds
  let whole := ds.take (ds.length - kept)
  let behind := ds.drop (ds.length - kept)
  let behind := match l.precision with
    | some p => behind ++ List.replicate (p - behind.length) '0'
    | none => (behind.reverse.dropWhile (· == '0')).reverse
  "0x" ++ l.withPoint whole behind ++ "p" ++ (if power < 0 then "-" else "+") ++
    toString power.natAbs

/-- The size of a number as it is written. Capital letters in the form are capital letters in the
text. -/
def text (l : Layout) (f : Binary) (size : Magnitude) : String :=
  let written :=
    match size with
    | .infinite => "inf"
    | .undefined => "nan"
    | .finite a b =>
      match l.form.toLower with
      | 'f' => l.fixed a b (l.precision.getD 6)
      | 'e' =>
        let (ds, e) := scientific a b (l.precision.getD 6)
        l.withPower ds e
      | 'a' => l.hexadecimal f a b
      | _ => l.general a b (max 1 (l.precision.getD 6))
  if l.form.isUpper then written.toUpper else written

end Layout

end PocketShell.Machine
