import PocketShell.Machine.Script.Formatting
import PocketShell.Machine.Utility.Request

/-!
# Writing arguments

The utilities that write what they are given: `echo`, `yes`, and `printf` with a format. They know more
escapes than the commands of the shell with these names.
-/

namespace PocketShell.Machine.Utility

open Script (toBytes charactersOf codeOf octal Directive Formatted)
open Job

/-- What an escape asks for. -/
inductive Escape where
  | text (cs : List Char)
  | stop
  | fault (complaint : String)

/-- The value of hexadecimal digits. -/
def hexValue (ds : List Char) : Nat := ds.foldl (fun n c => 16 * n + Script.Sum.digit c) 0

/-- The hexadecimal digits at the start of a text, at most some. -/
def hexDigits (limit : Nat) (cs : List Char) : List Char :=
  (cs.take limit).takeWhile fun c => Script.Sum.digit c < 16

/-- The byte with a number. -/
def byteOf (n : Nat) : List Char := [Char.ofNat (n % 256)]

/-- The escape of `echo` behind a backslash, and what follows it. -/
def echoEscape : List Char → Escape × List Char
  | [] => (.text ['\\'], [])
  | 'c' :: rest => (.stop, rest)
  | 'x' :: rest =>
    match hexDigits 2 rest with
    | [] => (.text ['\\', 'x'], rest)
    | ds => (.text (byteOf (hexValue ds)), rest.drop ds.length)
  | '0' :: rest =>
    let (n, rest) := octal 3 rest
    (.text (byteOf n), rest)
  | cs =>
    let (c, rest) := Script.escaped cs
    (.text [c], rest)

/-- The escape of `printf` behind a backslash, and what follows it. In an argument, unlike in the
format, the digits of an octal number can stand behind a zero. -/
def printfEscape (inArgument : Bool) : List Char → Escape × List Char
  | [] => (.text ['\\'], [])
  | 'c' :: rest => (.stop, rest)
  | '"' :: rest => (.text ['"'], rest)
  | 'x' :: rest =>
    match hexDigits 2 rest with
    | [] => (.fault "missing hexadecimal number in escape", rest)
    | ds => (.text (byteOf (hexValue ds)), rest.drop ds.length)
  | c :: rest =>
    if c == 'u' || c == 'U' then
      let size := if c == 'u' then 4 else 8
      let ds := hexDigits size rest
      let n := hexValue ds
      if ds.length < size then (.fault "missing hexadecimal number in escape", rest)
      else if 0xD800 ≤ n && n ≤ 0xDFFF then
        (.fault ("invalid universal character name \\" ++ String.ofList (c :: ds)), rest)
      else (.text (Script.seenText (String.singleton (Char.ofNat n))).toList, rest.drop size)
    else if inArgument && c == '0' then
      let (n, rest) := octal 3 rest
      (.text (byteOf n), rest)
    else
      match Script.escaped (c :: rest) with
      | ('\\', _ :: _) => if c == '\\' then (.text ['\\'], rest) else (.text ['\\', c], rest)
      | (e, rest) => (.text [e], rest)

/-- A text with its escapes carried out, and how it ended if not at its end. -/
def withEscapes (escape : List Char → Escape × List Char) :
    (fuel : Nat) → List Char → List Char × Option (Option String)
  | 0, _ => ([], none)
  | _, [] => ([], none)
  | fuel + 1, '\\' :: rest =>
    match escape rest with
    | (.stop, _) => ([], some none)
    | (.fault complaint, _) => ([], some (some complaint))
    | (.text cs, rest) =>
      let (later, ending) := withEscapes escape fuel rest
      (cs ++ later, ending)
  | fuel + 1, c :: rest =>
    let (later, ending) := withEscapes escape fuel rest
    (c :: later, ending)

/-- Writes its arguments. Escapes mean something only behind the option `-e`. -/
def echoJob : Job Int := do
  let rec run (ends escapes : Bool) : List String → Job Int
    | [] => say (if ends then "\n" else "") 0
    | s :: rest =>
      match s.toList with
      | '-' :: c :: cs =>
        let letters := c :: cs
        if letters.all (['n', 'e', 'E'].contains ·) then
          let lastEscape := letters.reverse.find? (· != 'n')
          run (ends && !letters.contains 'n') ((lastEscape.map (· == 'e')).getD escapes) rest
        else shown ends escapes (s :: rest)
      | _ => shown ends escapes (s :: rest)
  run true false (← arguments)
where
  /-- Writes words. -/
  shown (ends escapes : Bool) (words : List String) : Job Int := do
    let joined := (" ".intercalate words).toList
    let (text, ending) :=
      if escapes then withEscapes echoEscape (joined.length + 1) joined else (joined, none)
    say (String.ofList text ++ (if ends && ending.isNone then "\n" else "")) 0

namespace Printf

/-- The conversions that are left when a flag is given. -/
def allowed (flags : List Char) (hasPrecision : Bool) : List Char :=
  let without (flag : Char) (letters : String) (cs : List Char) : List Char :=
    if flags.contains flag then cs.filter (!letters.toList.contains ·) else cs
  let cs := "aAcdeEfFgGiosuxX".toList
  let cs := without '\'' "aAceEosxX" cs
  let cs := without 'I' "aAceEosxX" cs
  let cs := without '#' "cdisu" cs
  let cs := without '0' "cs" cs
  if hasPrecision then cs.filter (· != 'c') else cs

/-- A text with single percent signs in place of double ones. -/
def withoutDoubles : List Char → List Char
  | '%' :: '%' :: rest => '%' :: withoutDoubles rest
  | c :: rest => c :: withoutDoubles rest
  | [] => []

/-- Takes the number of the character behind a quotation mark. What follows the character is told
as ignored. -/
def quoted? (s : String) : Option (Nat × Option String) :=
  match s.toList with
  | mark :: c :: cs =>
    if mark == '\'' || mark == '"' then
      let first := ((charactersOf (String.ofList (c :: cs))).head?).getD [c]
      let rest := (c :: cs).drop first.length
      some (codeOf first, if rest.isEmpty then none else some (String.ofList rest))
    else none
  | _ => none

/-- Formatted text, with the warnings about characters that were ignored among the complaints. -/
structure Output where
  formatted : Formatted
  /-- What to tell, the last first. -/
  remarks : List String

/-- What is wrong with an argument. -/
def faultText : Script.NumberFault → String
  | .missing => "expected a numeric value"
  | .incomplete => "value not completely converted"
  | .outOfRange => "Numerical result out of range"

/-- Takes an argument that has to be a number of some kind. -/
def takeValue (o : Output) (none : α) (ofCode : Nat → α)
    (read : Formatted → String → α × Formatted) : α × Output :=
  match o.formatted.take with
  | (.none, f) => (none, { o with formatted := f })
  | (some s, f) =>
    match quoted? s with
    | some (n, ignored) =>
      let remarks := (ignored.map fun r =>
        "warning: " ++ r ++ ": character(s) following character constant have been ignored").toList
      (ofCode n, ⟨f, remarks ++ o.remarks⟩)
    | .none =>
      let (a, f) := read f s
      let remarks := (f.complaints.take (f.complaints.length - o.formatted.complaints.length)).map
        fun (argument, fault) => curly argument ++ ": " ++ faultText fault
      (a, ⟨f, remarks ++ o.remarks⟩)

/-- Takes an integer. -/
def takeInteger (o : Output) (isSigned : Bool) : Int × Output :=
  takeValue o 0 (fun n => (n : Int)) fun f s => f.integerOf true isSigned s

/-- Takes a number with a point. -/
def takeNumber (o : Output) : Number × Output :=
  takeValue o .zero (fun n => ⟨false, .finite n 1⟩) fun f s => f.numberOf true .extended s

/-- Adds text. -/
def Output.add (o : Output) (s : String) : Output := { o with formatted := o.formatted.add s }

/-- Ends the text. -/
def Output.stop (o : Output) (ending : Option String) : Output :=
  { o with formatted := { o.formatted with ending := some ending } }

/-- Takes an argument as it is. -/
def takeText (o : Output) : Option String × Output :=
  let (s, f) := o.formatted.take
  (s, { o with formatted := f })

/-- Takes a width or a precision, which an asterisk leaves to an argument. -/
def takeSize (o : Output) : List Char → Option Int × List Char × Output
  | '*' :: rest =>
    let (n, o) := takeInteger o true
    (some n, rest, o)
  | cs =>
    let ds := cs.takeWhile (·.isDigit)
    (if ds.isEmpty then none else some (Script.decimal ds), cs.drop ds.length, o)

/-- Carries out a directive. -/
def carryOut (o : Output) (d : Directive) : Output :=
  match d.kind with
  | 'c' =>
    let (s, o) := takeText o
    o.add (d.padded (String.singleton ((s.getD "").toList.headD '\x00')))
  | 's' =>
    let (s, o) := takeText o
    let text := (s.getD "").toList
    let text := match d.precision with | some p => text.take p | none => text
    o.add (d.padded (String.ofList text))
  | 'd' | 'i' =>
    let (n, o) := takeInteger o true
    o.add (d.integer n)
  | 'o' | 'u' | 'x' | 'X' =>
    let (n, o) := takeInteger o false
    o.add (d.integer n)
  | _ =>
    let (n, o) := takeNumber o
    o.add (d.number .extended n)

/-- Carries out the directive behind a percent sign, and gives what follows it. -/
def directive (o : Output) (cs : List Char) : Output × List Char :=
  let flags := cs.takeWhile fun c => ['#', '-', '+', ' ', '0', '\'', 'I'].contains c
  let (width, behind, o) := takeSize o (cs.drop flags.length)
  let (precision, hasPrecision, behind, o) :=
    match behind with
    | '.' :: behind =>
      let (p, behind, o) := takeSize o behind
      (if p.any (· < 0) then none else some (p.getD 0).toNat, true, behind, o)
    | _ => (none, false, behind, o)
  let behind := behind.dropWhile (['l', 'L', 'h', 'j', 't', 'z'].contains ·)
  match behind with
  | kind :: rest =>
    let written := '%' :: cs.take (cs.length - rest.length)
    if (allowed flags hasPrecision).contains kind then
      let flags := if width.any (· < 0) then '-' :: flags else flags
      (carryOut o ⟨flags, (width.getD 0).natAbs, precision, kind⟩, rest)
    else (o.stop (some (String.ofList written ++ ": invalid conversion specification")), [])
  | [] => (o.stop (some (String.ofList ('%' :: cs) ++ ": invalid conversion specification")), [])

/-- Goes through the format once. -/
def pass : (fuel : Nat) → List Char → Output → Output
  | 0, _, o => o
  | _, [], o => o
  | fuel + 1, '%' :: '%' :: rest, o => pass fuel rest (o.add "%")
  | fuel + 1, '%' :: 'b' :: rest, o =>
    let (s, o) := takeText o
    let cs := (s.getD "").toList
    let (text, ending) := withEscapes (printfEscape true) (cs.length + 1) cs
    let o := o.add (String.ofList text)
    match ending with
    | some ending => o.stop ending
    | none => pass fuel rest o
  | fuel + 1, '%' :: 'q' :: rest, o =>
    let (s, o) := takeText o
    pass fuel rest (o.add ((s.map quotedIfNeeded).getD ""))
  | fuel + 1, '%' :: rest, o =>
    let (o, rest) := directive o rest
    if o.formatted.ending.isSome then o else pass fuel rest o
  | fuel + 1, '\\' :: rest, o =>
    match printfEscape false rest with
    | (.stop, _) => o.stop none
    | (.fault complaint, _) => o.stop (some complaint)
    | (.text cs, rest) => pass fuel rest (o.add (String.ofList cs))
  | fuel + 1, c :: rest, o => pass fuel rest (o.add (String.singleton c))

/-- Goes through the format as long as that uses up arguments. -/
def passes (format : List Char) : (fuel : Nat) → Output → Output
  | 0, o => o
  | fuel + 1, o =>
    let next := pass (format.length + 1) format o
    let left := next.formatted.left
    if next.formatted.ending.isSome || left.isEmpty then next
    else if left.length = o.formatted.left.length then
      let remark := "warning: ignoring excess arguments, starting with " ++ curly (left.headD "")
      { next with remarks := remark :: next.remarks }
    else passes format fuel next

end Printf

/-- Writes formatted text. -/
def printfJob : Job Int := do
  let words ← arguments
  match if words.head? = some "--" then words.tail else words with
  | [] => misuse "missing operand"
  | format :: operands =>
    let o := Printf.passes format.toList (operands.length + 1) ⟨⟨"", operands, [], none⟩, []⟩
    o.remarks.reverse.forM complain
    match o.formatted.ending with
    | some (some fault) =>
      let _ ← write (toBytes o.formatted.text)
      complain fault
      return 1
    | some none => say o.formatted.text 0
    | none => say o.formatted.text (if o.formatted.complaints.isEmpty then 0 else 1)

/-- How much `yes` writes at once, and how often. -/
def yesLength : Nat := 8192
@[inherit_doc yesLength] def yesLimit : Nat := 1000

/-- Writes a line again and again until nobody reads that. -/
def yesJob : Job Int :=
  withLeadingOptions [] fun r => do
    let words := if r.operands.isEmpty then ["y"] else r.operands
    let line := toBytes (" ".intercalate words ++ "\n")
    let block := (List.replicate (max 1 (yesLength / line.length)) line).flatten
    match ← writeBlocks yesLimit (fun _ => block) fun n => 100 * Nat.pow 2 (n / 50) with
    | none => return 0
    | some e =>
      complain ("standard output: " ++ e.message)
      return 1

end PocketShell.Machine.Utility
