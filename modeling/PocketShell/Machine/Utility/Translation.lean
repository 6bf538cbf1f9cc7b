import PocketShell.Machine.Script.WordReading
import PocketShell.Machine.Utility.Printing
import PocketShell.Machine.Utility.Request

/-!
# Translating characters

`tr` replaces, removes and squeezes characters of its input. The characters are given by sets,
which are lists in which the place of a character counts.
-/

namespace PocketShell.Machine.Utility

open Script (ofBytes octal)
open Job

/-- A part of a set. -/
inductive SetPart where
  | char (c : Char)
  | range (low high : Char)
  | named (name : String)
  | same (c : Char)
  /-- A character several times, or as often as needed. -/
  | repeated (c : Char) (count : Option Nat)

namespace SetPart

/-- The characters with the numbers of bytes. -/
def allChars : List Char := (List.range 256).map Char.ofNat

/-- The named sets. -/
def classes : List (String × (Char → Bool)) :=
  let isShown (c : Char) : Bool := '!' ≤ c && c ≤ '~'
  [("alnum", Char.isAlphanum), ("alpha", Char.isAlpha), ("blank", fun c => c == ' ' || c == '\t'),
   ("cntrl", fun c => c < ' ' || c == '\x7f'), ("digit", Char.isDigit), ("graph", isShown),
   ("lower", Char.isLower), ("print", fun c => ' ' ≤ c && c ≤ '~'),
   ("punct", fun c => isShown c && !c.isAlphanum),
   ("space", fun c => c == ' ' || ('\t' ≤ c && c ≤ '\r')), ("upper", Char.isUpper),
   ("xdigit", fun c => c.isDigit || ('a' ≤ c && c ≤ 'f') || ('A' ≤ c && c ≤ 'F'))]

/-- The characters of a part. One that is repeated as needed stands there once for every place in
`fill`. -/
def members (fill : Nat) : SetPart → List Char
  | char c | same c => [c]
  | range low high =>
    (List.range (high.toNat + 1 - low.toNat)).map fun n => Char.ofNat (low.toNat + n)
  | named name => allChars.filter ((classes.lookup name).getD fun _ => false)
  | repeated c count => List.replicate (count.getD fill) c

/-- The characters of a set and whether they were written with a backslash. -/
def unescaped : (fuel : Nat) → List Char → List (Char × Bool)
  | 0, _ => []
  | _, [] => []
  | fuel + 1, '\\' :: c :: rest =>
    if '0' ≤ c && c ≤ '7' then
      let (n, behind) := octal 3 (c :: rest)
      if n < 256 then (Char.ofNat n, true) :: unescaped fuel behind
      else
        let (n, behind) := octal 2 (c :: rest)
        (Char.ofNat n, true) :: unescaped fuel behind
    else
      let letters := [('a', '\x07'), ('b', '\x08'), ('f', '\x0c'), ('n', '\n'), ('r', '\r'),
        ('t', '\t'), ('v', '\x0b')]
      ((letters.lookup c).getD c, true) :: unescaped fuel rest
  | fuel + 1, c :: rest => (c, false) :: unescaped fuel rest

/-- What stands between an opening bracket with a mark behind it and the closing bracket behind
the same mark, and what follows. -/
def bracketed? (mark : Char) : List (Char × Bool) → Option (List Char × List (Char × Bool))
  | (c, false) :: (']', false) :: rest =>
    if c == mark then some ([], rest)
    else (bracketed? mark ((']', false) :: rest)).map fun (cs, rest) => (c :: cs, rest)
  | (c, _) :: rest => (bracketed? mark rest).map fun (cs, rest) => (c :: cs, rest)
  | [] => none

/-- The repetition behind an opening bracket, and what follows it. -/
def repetition? : List (Char × Bool) →
    Option (Except String (SetPart × List (Char × Bool)))
  | (c, _) :: ('*', false) :: rest =>
    let ds := (rest.takeWhile (· != (']', false))).map (·.1)
    match rest.dropWhile (· != (']', false)) with
    | _ :: behind =>
      if !ds.all Char.isDigit then
        some (.error ("invalid repeat count " ++ curly (String.ofList ds) ++
          " in [c*n] construct"))
      else
        let n := if ds.head? = some '0' then (octal ds.length ds).1 else Script.decimal ds
        some (.ok (.repeated c (if n = 0 then none else some n), behind))
    | [] => none
  | _ => none

/-- A character as it is shown in a complaint. -/
def shownChar (c : Char) : String :=
  if ' ' ≤ c && c ≤ '~' then String.singleton c
  else
    let ds := Nat.toDigits 8 c.toNat
    "\\" ++ String.ofList (List.replicate (3 - ds.length) '0' ++ ds)

/-- Reads the parts of a set. -/
def read : (fuel : Nat) → List (Char × Bool) → Except String (List SetPart)
  | 0, _ => .ok []
  | _, [] => .ok []
  | fuel + 1, (c, isEscaped) :: rest => do
    let isOpening := c == '[' && !isEscaped && 2 ≤ rest.length
    let part ← if isOpening then opened rest else pure none
    match part with
    | some (part, behind) => return part :: (← read fuel behind)
    | none =>
      match rest with
      | ('-', false) :: (high, _) :: behind =>
        if high < c then
          throw ("range-endpoints of '" ++ shownChar c ++ "-" ++ shownChar high ++
            "' are in reverse collating sequence order")
        return .range c high :: (← read fuel behind)
      | _ => return .char c :: (← read fuel rest)
where
  /-- The part behind an opening bracket, if the bracket opens one. -/
  opened (rest : List (Char × Bool)) : Except String (Option (SetPart × List (Char × Bool))) :=
    let repeats : Except String (Option (SetPart × List (Char × Bool))) :=
      match repetition? rest with
      | none => .ok none
      | some (.ok part) => .ok (some part)
      | some (.error e) => .error e
    let isRepetition := match repetition? rest with
      | some (.ok _) => true
      | _ => false
    match rest with
    | (mark, false) :: inner =>
      match if mark == ':' || mark == '=' then bracketed? mark inner else none with
      | none => repeats
      | some (cs, behind) =>
        let name := String.ofList cs
        if mark == ':' then
          if cs.isEmpty then .error "missing character class name '[::]'"
          else if (classes.lookup name).isSome then .ok (some (.named name, behind))
          else if isRepetition then repeats
          else .error ("invalid character class " ++ curly name)
        else
          match cs with
          | [] => .error "missing equivalence class character '[==]'"
          | [c] => .ok (some (.same c, behind))
          | _ =>
            if isRepetition then repeats
            else .error (name ++ ": equivalence class operand must be a single character")
    | _ => repeats

/-- The parts of the set that a text stands for. -/
def ofText (s : String) : Except String (List SetPart) :=
  let cs := unescaped (s.length + 1) s.toList
  read (cs.length + 1) cs

/-- The characters of parts. -/
def expand (fill : Nat) (parts : List SetPart) : List Char := parts.flatMap (members fill)

/-- Whether a part is a set of the letters of one case. -/
def isCase : SetPart → Bool
  | named name => name = "lower" || name = "upper"
  | _ => false

/-- The places at which sets of the letters of one case start. -/
def casePlaces (fill : Nat) : List SetPart → List Nat :=
  let rec go (place : Nat) : List SetPart → List Nat
    | [] => []
    | part :: rest =>
      (if part.isCase then [place] else []) ++ go (place + (part.members fill).length) rest
  go 0

end SetPart

/-- Without the repetitions of some characters. -/
def squeezed (set : List Char) : List Char → List Char
  | a :: b :: rest =>
    if a == b && set.contains a then squeezed set (b :: rest) else a :: squeezed set (b :: rest)
  | cs => cs

/-- What is done with the input. -/
structure Translation where
  removes : Char → Bool
  swap : Char → Char
  squeezes : List Char

/-- The sets of a translation from one set of characters to another, or what is wrong with the
second. -/
def translationSets (isComplement truncates : Bool) (source : List SetPart) (domain : List Char)
    (goal : List SetPart) : Except String (List Char) := do
  let fills := goal.filter fun | .repeated _ none => true | _ => false
  if 1 < fills.length then throw "only one [c*] repeat construct may appear in string2"
  let fixed := (SetPart.expand 0 goal).length
  let fill := domain.length - fixed
  let chars := SetPart.expand fill goal
  if chars.isEmpty && !truncates then
    throw "when not truncating set1, string2 must be non-empty"
  if goal.any fun | .same _ => true | _ => false then
    throw "[=c=] expressions may not appear in string2 when translating"
  let isOther : SetPart → Bool
    | .named name => name ≠ "lower" && name ≠ "upper"
    | _ => false
  if goal.any isOther then
    throw ("when translating, the only character classes that may appear in\n" ++
      "string2 are 'upper' and 'lower'")
  let places := SetPart.casePlaces 0 source
  if !(SetPart.casePlaces fill goal).all places.contains then
    throw "misaligned [:upper:] and/or [:lower:] construct"
  if isComplement && source.any (fun | .named _ => true | _ => false) &&
      chars.any (· ≠ chars.headD ' ') then
    throw ("when translating with complemented character classes,\n" ++
      "string2 must map all characters in the domain to one")
  if truncates then return chars
  return chars ++ List.replicate (domain.length - chars.length) (chars.getLastD ' ')

/-- The translation that a call asks for, or what is wrong with the sets. -/
def translationOf (r : Request) : Except String Translation := do
  let isComplement := r.has 'c' || r.has 'C'
  let source ← SetPart.ofText (r.operands.headD "")
  if source.any fun | .repeated _ none => true | _ => false then
    throw "the [c*] repeat construct may not appear in string1"
  let chars := SetPart.expand 0 source
  let chars := if isComplement then SetPart.allChars.filter (!chars.contains ·) else chars
  let removes (c : Char) : Bool := r.has 'd' && chars.contains c
  match r.operands with
  | [_, second] =>
    let goal ← SetPart.ofText second
    if r.has 'd' then
      return ⟨removes, id, SetPart.expand 0 goal⟩
    let images ← translationSets isComplement (r.has 't') source chars goal
    let pairs := (chars.zip images).reverse
    return ⟨removes, fun c => (pairs.lookup c).getD c, if r.has 's' then images else []⟩
  | _ => return ⟨removes, id, if r.has 's' && !r.has 'd' then chars else []⟩

/-- The options of `tr`. -/
def trChoices : List Choice :=
  [.flag 'c' ["complement"], .flag 'C' [], .flag 'd' ["delete"], .flag 's' ["squeeze-repeats"],
   .flag 't' ["truncate-set1"]]

/-- Replaces, removes or squeezes characters of the input. -/
def trJob : Job Int :=
  withLeadingOptions trChoices fun r => do
    let isLone := r.has 'd' != r.has 's'
    let least := if isLone then 1 else 2
    let most := if r.has 'd' && !r.has 's' then 1 else 2
    if r.operands.isEmpty then misuse "missing operand"
    else if r.operands.length < least then
      misuse ("missing operand after " ++ curly (r.operands.getLastD "") ++
        (if r.has 'd' then "\nTwo strings must be given when both deleting and squeezing repeats."
         else "\nTwo strings must be given when translating."))
    else if most < r.operands.length then
      misuse ("extra operand " ++ curly (r.operands.getD most "") ++
        if r.operands.length = 2 then
          "\nOnly one string may be given when deleting without squeezing repeats."
        else "")
    else
      match translationOf r with
      | .error complaint =>
        complain complaint
        return 1
      | .ok t =>
        match ← input with
        | .error e =>
          complain ("read error: " ++ e.message)
          return 1
        | .ok bytes =>
          let cs := ((ofBytes bytes).filter (!t.removes ·)).map t.swap
          say (String.ofList (if t.squeezes.isEmpty then cs else squeezed t.squeezes cs)) 0

end PocketShell.Machine.Utility
