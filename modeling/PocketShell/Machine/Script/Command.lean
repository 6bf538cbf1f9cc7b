/-!
# Commands of scripts

A script is a text of bytes, here seen as characters below U+0100. Its commands are built from
words, and a word from pieces that are put together when the command is run.
-/

namespace PocketShell.Machine.Script

/-- What a dollar sign can ask for. -/
inductive Parameter where
  | variable (name : String)
  | position (n : Nat)
  /-- All arguments, as one text if they are joined. -/
  | arguments (isJoined : Bool)
  | count
  | status
  | process
  | background
  | options
  deriving DecidableEq, Repr

/-- What is done about a parameter that is not set. -/
inductive Fallback where
  | use
  | assign
  | complain
  /-- The other way round: the word stands in for a parameter that is set. -/
  | replace
  deriving DecidableEq, Repr

/-- How a file is opened by a redirection. -/
inductive Opening where
  | input
  | output
  /-- For output even where files must not be overwritten. -/
  | clobber
  | append
  | both
  deriving DecidableEq, Repr

mutual

/-- A piece of a word. What a quoted piece stands for is never split. -/
inductive Piece where
  | text (s : String) (isQuoted : Bool)
  | value (p : Parameter) (isQuoted : Bool)
  | length (p : Parameter) (isQuoted : Bool)
  | fallback (p : Parameter) (kind : Fallback) (evenEmpty : Bool) (word : List Piece)
      (isQuoted : Bool)
  | trimmed (p : Parameter) (atEnd isLongest : Bool) (pattern : List Piece) (isQuoted : Bool)
  | malformed
  /-- What follows it in the word is lost. -/
  | cut
  /-- What commands write. -/
  | output (script : List Command) (isQuoted : Bool)
  | sum (expression : List Piece) (isQuoted : Bool)

/-- What a stream is replaced by. -/
inductive Redirection where
  | file (descriptor : Nat) (how : Opening) (path : List Piece)
  /-- Another stream, or none if the word is a hyphen. -/
  | copy (descriptor : Nat) (source : List Piece)
  | document (descriptor : Nat) (body : List Piece)

/-- Commands. -/
inductive Command where
  | simple (line : Nat) (settings : List (String × List Piece)) (words : List (List Piece))
      (redirections : List Redirection)
  | both (first second : Command)
  | either (first second : Command)
  | negation (c : Command)
  | pipeline (parts : List Command)
  | background (c : Command)
  | subshell (line : Nat) (body : List Command) (redirections : List Redirection)
  | group (line : Nat) (body : List Command) (redirections : List Redirection)
  | choice (test yes no : List Command)
  | loop (isUntil : Bool) (test body : List Command)
  | each (line : Nat) (name : String) (words : List (List Piece)) (body : List Command)
  | select (line : Nat) (word : List Piece) (branches : List (List (List Piece) × List Command))
  | definition (line : Nat) (name : String) (body : Command)

end

/-- The pieces of a word. -/
abbrev Word := List Piece

/-- Commands that run one after the other. -/
abbrev Commands := List Command

namespace Word

/-- Adds a character behind the pieces of a word, of which the last comes first. -/
def pushChar (c : Char) (isQuoted : Bool) : Word → Word
  | .text s wasQuoted :: rest =>
    if wasQuoted == isQuoted then .text (s.push c) isQuoted :: rest
    else .text (String.singleton c) isQuoted :: .text s wasQuoted :: rest
  | rest => .text (String.singleton c) isQuoted :: rest

/-- The pieces of a word that are not lost. -/
def kept : Word → Word
  | .cut :: _ => []
  | p :: ps => p :: kept ps
  | [] => []

/-- The text of a word that is plain text without quotes. -/
def plain? : Word → Option String
  | [.text s false] => some s
  | _ => none

end Word

end PocketShell.Machine.Script
