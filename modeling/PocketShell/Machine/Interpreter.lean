import PocketShell.Machine.Path

/-!
# Programs and their interpreters

Executing a path either finds a program of the machine or a script whose first line names the
interpreter to execute in its place, with the script as an argument.
-/

namespace PocketShell.Machine

open Text (Bytes)

/-- The first line of a script: the interpreter and the argument it may have. -/
structure Interpreter where
  path : Bytes
  argument : Option Bytes
  deriving DecidableEq, Repr

namespace Interpreter

/-- How many bytes of a script are looked at. -/
def lineLimit : Nat := 256

/-- Space and tab part the words of the first line. -/
def isGap (b : UInt8) : Bool := b == 0x20 || b == 0x09

/-- Where a word of the first line ends. -/
def isEnd (b : UInt8) : Bool := isGap b || b == 0

/-- The bytes up to the first zero byte. -/
def upToZero (bs : Bytes) : Bytes := bs.takeWhile (· != 0)

/-- The interpreter and its argument, as they stand between the mark and the end of the line.
Everything behind the interpreter is one argument, without the spaces around it. -/
def ofLine (line : Bytes) : Option Interpreter :=
  match line.dropWhile isGap with
  | [] => none
  | words =>
    let path := words.takeWhile (!isEnd ·)
    match words.dropWhile (!isEnd ·) with
    | [] => some ⟨path, none⟩
    | b :: rest =>
      if b = 0 then some ⟨path, none⟩
      else
        match rest.dropWhile isGap with
        | [] => some ⟨path, none⟩
        | argument => some ⟨path, some (upToZero argument)⟩

/-- Without the spaces and tabs at the end. -/
def trimEnd (bs : Bytes) : Bytes := (bs.reverse.dropWhile isGap).reverse

/-- The interpreter of a script. A first line without an end is taken as far as it was looked
at, if the name of the interpreter ends in there; the looked-at bytes behind the end of a short
script are zero. -/
def ofScript? (content : Bytes) : Option Interpreter :=
  match content.take lineLimit with
  | 0x23 :: 0x21 :: start =>
    if start.contains 0x0A then ofLine (trimEnd (start.takeWhile (· != 0x0A)))
    else
      let padded := start ++ List.replicate (lineLimit - 2 - start.length) 0
      let words := padded.dropWhile isGap
      if words.any isEnd then ofLine (trimEnd (padded.dropLast)) else none
  | _ => none

end Interpreter

/-- The path of the shell, which scripts without a mark are run by. -/
def shellPath : String := "/bin/sh"

namespace FileSystem

/-- The node to execute at a path: a program, or a file that may be executed. -/
def executable (fs : FileSystem) (here : Location) (path : Bytes) : Except Errno Node := do
  let (_, node) ← fs.find here path
  if node.isRegular && node.permits .execute then return node else throw .accessDenied

/-- How many programs may stand for one another before one of the machine has to be there. -/
def interpreterLimit : Nat := 6

/-- The program that executing a path starts, and the arguments it gets. -/
def program (fs : FileSystem) (here : Location) :
    (limit : Nat) → (path : Bytes) → (arguments : List Bytes) →
      Except Errno (Native × List Bytes)
  | limit, path, arguments => do
    let node ← fs.executable here path
    match limit, node with
    | 0, _ => throw .tooManyLinks
    | _ + 1, .program native => return (native, arguments)
    | limit + 1, .file _ content =>
      match Interpreter.ofScript? content with
      | none => throw .execFormat
      | some i =>
        -- an interpreter without a name is the current directory
        if i.path = [] then throw .accessDenied
        fs.program here limit i.path (i.path :: i.argument.toList ++ path :: arguments.tail)
    | _, _ => throw .accessDenied

end FileSystem

end PocketShell.Machine
