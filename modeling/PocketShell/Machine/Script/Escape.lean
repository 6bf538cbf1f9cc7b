/-!
# Escapes

Characters that are written with a backslash, as `echo` and `printf` know them.
-/

namespace PocketShell.Machine.Script

/-- The value of up to `limit` octal digits, and the characters behind them. -/
def octal (limit : Nat) (cs : List Char) : Nat × List Char :=
  let digits := (cs.take limit).takeWhile fun c => '0' ≤ c && c ≤ '7'
  (digits.foldl (fun n c => 8 * n + (c.toNat - '0'.toNat)) 0, cs.drop digits.length)

/-- The character of an escape of one letter. -/
def letterEscape? : Char → Option Char
  | '\\' => some '\\'
  | 'a' => some '\x07'
  | 'b' => some '\x08'
  | 'e' => some '\x1b'
  | 'f' => some '\x0c'
  | 'n' => some '\n'
  | 'r' => some '\r'
  | 't' => some '\t'
  | 'v' => some '\x0b'
  | _ => none

/-- The character of the escape behind a backslash, and what follows it. A backslash in front
of anything else stands for itself. -/
def escaped : List Char → Char × List Char
  | [] => ('\\', [])
  | c :: rest =>
    if '0' ≤ c && c ≤ '7' then
      let (n, rest) := octal 3 (c :: rest)
      (Char.ofNat (n % 256), rest)
    else
      match letterEscape? c with
      | some e => (e, rest)
      | none => ('\\', c :: rest)

/-- A text with its escapes carried out, where octal ones start with a zero. The flag tells
whether `\c` ended the text. -/
def unescape : (fuel : Nat) → List Char → List Char × Bool
  | 0, _ => ([], false)
  | _, [] => ([], false)
  | fuel + 1, '\\' :: rest =>
    match rest with
    | 'c' :: _ => ([], true)
    | _ =>
      let (c, rest) :=
        match rest with
        | '0' :: digits =>
          let (n, rest) := octal 3 digits
          (Char.ofNat (n % 256), rest)
        | _ => escaped rest
      let (later, stops) := unescape fuel rest
      (c :: later, stops)
  | fuel + 1, c :: rest =>
    let (later, stops) := unescape fuel rest
    (c :: later, stops)

/-- What `echo` writes: its arguments with spaces between them and a line end, which `-n` and
`\c` leave out. -/
def echoText (arguments : List String) : String :=
  let (arguments, ends) :=
    match arguments with
    | "-n" :: rest => (rest, "")
    | _ => (arguments, "\n")
  let joined := (" ".intercalate arguments).toList
  let (text, stops) := unescape (joined.length + 1) joined
  String.ofList text ++ (if stops then "" else ends)

end PocketShell.Machine.Script
