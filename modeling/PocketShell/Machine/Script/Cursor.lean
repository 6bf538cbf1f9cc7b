import PocketShell.Machine.Script.Command

/-!
# Reading position

A script is read from left to right, one token at a time. The reading position knows what is
left of the script, on which line it is, and a token that was read too early.
-/

namespace PocketShell.Machine.Script

/-- How a redirection is written, without its descriptor. -/
inductive RedirectionSign where
  | file (how : Opening)
  | copy (isInput : Bool)
  | document (stripsTabs : Bool)
  deriving DecidableEq, Repr

/-- The descriptor of a redirection that names none. -/
def RedirectionSign.descriptor : RedirectionSign → Nat
  | .file .input | .file .both | .copy true | .document _ => 0
  | .file _ | .copy false => 1

/-- Tokens of a script. -/
inductive Token where
  | word (w : Word)
  | keyword (s : String)
  | redirection (descriptor : Nat) (sign : RedirectionSign)
  | sign (s : String)
  | lineEnd
  | finish

/-- What a token is called in a complaint. -/
def Token.shown : Token → String
  | word _ => "word"
  | keyword s | sign s => "\"" ++ s ++ "\""
  | redirection _ _ => "redirection"
  | lineEnd => "newline"
  | finish => "end of file"

/-- A script that makes no sense: the line where this came out, and the complaint. -/
structure Misreading where
  line : Nat
  complaint : String

/-- The text of an alias that is being read. -/
structure Expanding where
  name : String
  /-- How many characters the script has behind that text. -/
  behind : Nat
  /-- The word behind the text can be an alias too, wherever it stands. -/
  endsInGap : Bool

/-- A reading position. The bodies of here-documents are taken out of the script as soon as
they are asked for; their lines are owed until the end of the line in front of them. -/
structure Cursor where
  rest : List Char
  line : Nat
  owed : Nat
  ahead : Option Token
  /-- How many characters the script has. -/
  size : Nat
  /-- What words at the start of commands stand for. -/
  aliases : List (String × String)
  expanding : List Expanding

/-- The start of a script. -/
def Cursor.start (script : List Char) (line : Nat) (aliases : List (String × String)) : Cursor :=
  ⟨script, line, 0, none, script.length, aliases, []⟩

/-- A reading of some part of a script. -/
abbrev Reading := StateT Cursor (Except Misreading)

namespace Reading

/-- The reading fails where it is. -/
def fail (complaint : String) : Reading α := do throw ⟨(← get).line, complaint⟩

/-- A token stands where none of its kind can. -/
def unexpected (t : Token) (expected : Option String) : Reading α :=
  fail (t.shown ++ " unexpected" ++
    match expected with
    | some s => " (expecting " ++ s ++ ")"
    | none => "")

/-- Goes on with what is left. -/
def advance (rest : List Char) : Reading Unit := modify fun c => { c with rest }

/-- Goes on behind the end of a line that does not end a command. -/
def crossLine (rest : List Char) : Reading Unit :=
  modify fun c => { c with rest, line := c.line + 1 }

/-- Goes on behind the end of a line, and behind the here-documents that follow it. -/
def endLine (rest : List Char) : Reading Unit :=
  modify fun c => { c with rest, line := c.line + 1 + c.owed, owed := 0 }

/-- Puts a token back. -/
def putBack (t : Token) : Reading Unit := modify fun c => { c with ahead := some t }

/-- Reads another text, and goes on behind it where the reading was. -/
def within (text : List Char) (line : Nat) (inner : Reading α) : Reading α := do
  let outer ← get
  set (Cursor.start text line outer.aliases)
  let a ← inner
  set outer
  return a

end Reading

end PocketShell.Machine.Script
