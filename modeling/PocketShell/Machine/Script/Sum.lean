import PocketShell.Machine.Script.WordReading

/-!
# Integer expressions

Integer expressions of scripts, with the operators of C but for those that count up and down.
Values have 64 bits and wrap around.

An expression that makes no sense is evaluated up to where that comes out, so that of several
faults the first one is told. A fault of that kind is a part of the expression, `broken`.
-/

namespace PocketShell.Machine.Script

/-- Integer expressions. -/
inductive Sum where
  | number (n : Int)
  | variable (name : String)
  | unary (op : Char) (e : Sum)
  | binary (op : String) (left right : Sum)
  | choice (test yes no : Sum)
  /-- A variable is set, to a value or to what an operator makes of its own and that value. -/
  | assign (name : String) (op : Option String) (e : Sum)
  /-- What has been read behind an expression makes no sense. -/
  | broken (e : Sum) (reason : String)
  deriving Repr

/-- Why an expression has no value. -/
inductive SumFault where
  | malformed (reason : String)
  | badNumber (text : String)

namespace Sum

/-- Tokens of an expression. -/
inductive Token where
  | number (n : Int)
  | name (s : String)
  | op (s : String)
  | bad
  deriving DecidableEq, Repr

/-- The nearest value of 64 bits. -/
def clamp (n : Int) : Int := max (-Nat.pow 2 63) (min (Nat.pow 2 63 - 1) n)

/-- The value of 64 bits that a number wraps around to. -/
def wrap (n : Int) : Int := Int.bmod n (Nat.pow 2 64)

/-- The value of a digit, which is less than 16 for a hexadecimal one. -/
def digit (c : Char) : Nat :=
  if c.isDigit then c.toNat - '0'.toNat
  else if 'a' ≤ c && c ≤ 'z' then c.toNat - 'a'.toNat + 10
  else if 'A' ≤ c && c ≤ 'Z' then c.toNat - 'A'.toNat + 10
  else 99

/-- The number at the start of a text that starts with a digit, and what follows it. The base
is told by the start, as in C. -/
def numeral (cs : List Char) : Nat × List Char :=
  let value (base : Nat) (ds : List Char) := ds.foldl (fun n c => base * n + digit c) 0
  let inBase (base : Nat) (cs : List Char) :=
    (value base (cs.takeWhile fun c => digit c < base), cs.dropWhile fun c => digit c < base)
  match cs with
  | '0' :: x :: d :: rest =>
    if (x == 'x' || x == 'X') && digit d < 16 then inBase 16 (d :: rest) else inBase 8 cs
  | '0' :: _ => inBase 8 cs
  | _ => inBase 10 cs

/-- Whether a character is a space of any kind. -/
def isSpacing (c : Char) : Bool := c == ' ' || ('\t' ≤ c && c ≤ '\r')

/-- The integer that a text starts with, spaces in front and a sign allowed, and what follows
it. -/
def unbounded? (s : String) : Option (Int × List Char) :=
  let cs := s.toList.dropWhile isSpacing
  let (isNegative, cs) :=
    match cs with
    | '-' :: cs => (true, cs)
    | '+' :: cs => (false, cs)
    | _ => (false, cs)
  if cs.head?.any (·.isDigit) then
    let (n, rest) := numeral cs
    some (if isNegative then -(n : Int) else n, rest)
  else none

/-- The integer of 64 bits that a text starts with, and what follows it. -/
def integer? (s : String) : Option (Int × List Char) :=
  (unbounded? s).map fun (n, rest) => (clamp n, rest)

/-- The operators, those first that others start. -/
def operators : List String :=
  ["<<=", ">>=", "&&", "||", "==", "!=", "<=", ">=", "<<", ">>", "+=", "-=", "*=", "/=", "%=",
   "&=", "|=", "^=", "+", "-", "*", "/", "%", "(", ")", "!", "~", "<", ">", "=", "&", "^", "|",
   "?", ":"]

/-- The tokens of an expression. -/
def scan : (fuel : Nat) → List Char → List Token
  | 0, _ => []
  | _, [] => []
  | fuel + 1, c :: rest =>
    if c == ' ' || c == '\t' || c == '\n' then scan fuel rest
    else if c.isDigit then
      let (n, rest) := numeral (c :: rest)
      .number (clamp n) :: scan fuel rest
    else if startsName c then
      .name (String.ofList (c :: rest.takeWhile inName)) :: scan fuel (rest.dropWhile inName)
    else
      match operators.find? fun op => op.toList.isPrefixOf (c :: rest) with
      | some op => .op op :: scan fuel ((c :: rest).drop op.length)
      | none => [.bad]

/-- How tightly an operator between two values binds. -/
def rank? : String → Option Nat
  | "*" | "/" | "%" => some 10
  | "+" | "-" => some 9
  | "<<" | ">>" => some 8
  | "<" | ">" | "<=" | ">=" => some 7
  | "==" | "!=" => some 6
  | "&" => some 5
  | "^" => some 4
  | "|" => some 3
  | "&&" => some 2
  | "||" => some 1
  | _ => none

/-- The operator of an assignment, if it has one besides the sign of equality. -/
def assignment? : String → Option (Option String)
  | "=" => some none
  | "<<=" => some (some "<<")
  | ">>=" => some (some ">>")
  | "+=" => some (some "+")
  | "-=" => some (some "-")
  | "*=" => some (some "*")
  | "/=" => some (some "/")
  | "%=" => some (some "%")
  | "&=" => some (some "&")
  | "|=" => some (some "|")
  | "^=" => some (some "^")
  | _ => none

/-- A part of an expression that has been read, and what follows it. Nothing follows what makes
no sense. -/
abbrev Parsed := Sum × Option (List Token)

/-- There is no value where one has to be. -/
def noPrimary : Parsed := (.broken (.number 0) "expecting primary", none)

mutual

/-- Reads an expression or an assignment. -/
def expression : (fuel : Nat) → List Token → Parsed
  | 0, _ => noPrimary
  | fuel + 1, .name s :: .op op :: ts =>
    match assignment? op with
    | some inner =>
      let (e, ts) := expression fuel ts
      (.assign s inner e, ts)
    | none => conditional fuel (.name s :: .op op :: ts)
  | fuel + 1, ts => conditional fuel ts

/-- Reads a choice or what stands in front of it. -/
def conditional : (fuel : Nat) → List Token → Parsed
  | 0, _ => noPrimary
  | fuel + 1, ts =>
    match primary fuel ts with
    | (e, none) => (e, none)
    | (e, some ts) =>
      match operations fuel 1 e ts with
      | (test, some (.op "?" :: ts)) =>
        match expression fuel ts with
        | (yes, some (.op ":" :: ts)) =>
          let (no, ts) := conditional fuel ts
          (.choice test yes no, ts)
        | (yes, some _) => (.choice test (.broken yes "expecting ':'") (.number 0), none)
        | (yes, none) => (.choice test yes (.number 0), none)
      | other => other

/-- Reads the operations behind a value that bind at least as tightly as a rank. -/
def operations : (fuel rank : Nat) → Sum → List Token → Parsed
  | fuel + 1, rank, left, .op op :: ts =>
    match rank? op with
    | some r =>
      if rank ≤ r then
        match primary fuel ts with
        | (right, none) => (.binary op left right, none)
        | (right, some ts) =>
          match operations fuel (r + 1) right ts with
          | (right, none) => (.binary op left right, none)
          | (right, some ts) => operations fuel rank (.binary op left right) ts
      else (left, some (.op op :: ts))
    | none => (left, some (.op op :: ts))
  | _, _, left, ts => (left, some ts)

/-- Reads a value with the signs in front of it. -/
def primary : (fuel : Nat) → List Token → Parsed
  | _ + 1, .number n :: ts => (.number n, some ts)
  | _ + 1, .name s :: ts => (.variable s, some ts)
  | fuel + 1, .op "(" :: ts =>
    match expression fuel ts with
    | (e, some (.op ")" :: ts)) => (e, some ts)
    | (e, some _) => (.broken e "expecting ')'", none)
    | (e, none) => (e, none)
  | fuel + 1, .op op :: ts =>
    match op with
    | "+" => primary fuel ts
    | "-" | "!" | "~" =>
      let (e, ts) := primary fuel ts
      (.unary (op.toList.headD '-') e, ts)
    | _ => noPrimary
  | _, _ => noPrimary

end

/-- The expression that a text is. -/
def ofText (text : String) : Sum :=
  let ts := scan (text.length + 1) text.toList
  match expression (4 * ts.length + 8) ts with
  | (e, none) | (e, some []) => e
  | (e, some _) => .broken e "expecting EOF"

/-- What makes no sense in an expression, wherever it stands. -/
def breakage? : Sum → Option String
  | .number _ | .variable _ => none
  | .unary _ e | .assign _ _ e => e.breakage?
  | .binary _ left right => left.breakage?.or right.breakage?
  | .choice test yes no => (test.breakage?.or yes.breakage?).or no.breakage?
  | .broken e reason => e.breakage?.or (some reason)

/-- The number that stands for a truth value. -/
def ofBool (b : Bool) : Int := if b then 1 else 0

/-- An operation on bits. -/
def bitwise (f : BitVec 64 → BitVec 64 → BitVec 64) (a b : Int) : Int :=
  (f (BitVec.ofInt 64 a) (BitVec.ofInt 64 b)).toInt

/-- What an operator makes of two values. -/
def operate (op : String) (a b : Int) : Except SumFault Int :=
  match op with
  | "+" => .ok (wrap (a + b))
  | "-" => .ok (wrap (a - b))
  | "*" => .ok (wrap (a * b))
  | "/" => if b = 0 then .error (.malformed "division by zero") else .ok (wrap (a.tdiv b))
  | "%" => if b = 0 then .error (.malformed "division by zero") else .ok (wrap (a.tmod b))
  | "<<" => .ok (bitwise (fun x y => x <<< (y.toNat % 64)) a b)
  | ">>" => .ok (bitwise (fun x y => x.sshiftRight (y.toNat % 64)) a b)
  | "<" => .ok (ofBool (a < b))
  | ">" => .ok (ofBool (b < a))
  | "<=" => .ok (ofBool (a ≤ b))
  | ">=" => .ok (ofBool (b ≤ a))
  | "==" => .ok (ofBool (a = b))
  | "!=" => .ok (ofBool (a ≠ b))
  | "&" => .ok (bitwise (· &&& ·) a b)
  | "^" => .ok (bitwise (· ^^^ ·) a b)
  | _ => .ok (bitwise (· ||| ·) a b)

/-- Values that variables were set to, the latest first. -/
abbrev Settings := List (String × Int)

/-- The value of a variable, which counts as 0 if it is blank or not set. Spaces may stand around
a number. -/
def valueOf (look : String → Option String) (settings : Settings) (name : String) :
    Except SumFault Int :=
  match settings.lookup name, look name with
  | some n, _ => .ok n
  | none, none => .ok 0
  | none, some text =>
    match unbounded? text with
    | some (n, rest) =>
      if rest.all isSpacing && clamp n = n then .ok n else .error (.badNumber text)
    | none => if text.toList.all isSpacing then .ok 0 else .error (.badNumber text)

/-- Passes over an expression of which the value is not asked for. -/
def pass (e : Sum) : Except SumFault Unit :=
  match e.breakage? with
  | some reason => .error (.malformed reason)
  | none => .ok ()

/-- The value of an expression, given the texts of variables, and the variables that it set. -/
def eval (look : String → Option String) (settings : Settings) :
    Sum → Except SumFault (Int × Settings)
  | .number n => .ok (n, settings)
  | .variable name => do return (← valueOf look settings name, settings)
  | .unary op e => do
    let (n, settings) ← eval look settings e
    match op with
    | '-' => return (wrap (-n), settings)
    | '!' => return (ofBool (n = 0), settings)
    | _ => return (-n - 1, settings)
  | .binary op left right => do
    let (a, settings) ← eval look settings left
    if (op = "&&" && a = 0) || (op = "||" && a ≠ 0) then
      right.pass
      return (ofBool (op = "||"), settings)
    let (b, settings) ← eval look settings right
    if op = "&&" || op = "||" then return (ofBool (b ≠ 0), settings)
    return (← operate op a b, settings)
  | .choice test yes no => do
    let (t, settings) ← eval look settings test
    if t ≠ 0 then
      let result ← eval look settings yes
      no.pass
      return result
    else
      yes.pass
      eval look settings no
  | .assign name op e => do
    let (n, settings) ← eval look settings e
    let n ←
      match op with
      | none => pure n
      | some op => operate op (← valueOf look settings name) n
    return (n, (name, n) :: settings)
  | .broken e reason => do
    let _ ← eval look settings e
    throw (.malformed reason)

end Sum

end PocketShell.Machine.Script
