import PocketShell.Machine.Script.Expansion

/-!
# Redirections

Redirections replace descriptors one after the other. A redirection that cannot be carried out
is told as a complaint.
-/

namespace PocketShell.Machine.Script

open Act

/-- Why a file could not be opened. -/
def openMessage (absence : String) (e : Errno) : String := if e.isAbsence then absence else e.message

/-- Puts a stream in the place of a descriptor. -/
def bindDescriptor (ds : Descriptors) (descriptor stream : Nat) : Descriptors :=
  (descriptor, stream) :: ds.filter (·.1 ≠ descriptor)

/-- Opens a stream and gives its number. -/
def openStream (c : Channel) : Act Nat := do
  let (sys, n) := (← system).openChannel c
  setSystem sys
  return n

/-- Opens a file. -/
def openFile (how : Opening) (path : String) : Act (Except String Nat) := do
  let p ← process
  let here ← here
  let files := (← system).current
  let bytes := toBytes path
  match how with
  | .input =>
    match files.openToRead here bytes with
    | .error e => return .error ("cannot open " ++ path ++ ": " ++ openMessage "No such file" e)
    | .ok number =>
      match files.nodeOf? number with
      | some .device => return .ok (← openStream .device)
      | _ => return .ok (← openStream (.file number 0 false true false))
  | _ =>
    let isTaken := how == .output && p.has 'C' &&
      match files.find here bytes with
      | .ok (_, node) => node.isRegular
      | .error _ => false
    let opened := files.openToWrite (masked freshFileMode p.mask) (linkLimit + 1) here bytes
    match if isTaken then .error Errno.alreadyThere else opened with
    | .error e =>
      return .error ("cannot create " ++ path ++ ": " ++ openMessage "Directory nonexistent" e)
    | .ok (files, number) =>
      let isEmptied := how == .output || how == .clobber
      let files := if isEmptied then files.setContent number [] else files
      setSystem { ← system with files }
      match files.nodeOf? number with
      | some .device => return .ok (← openStream .device)
      | _ => return .ok (← openStream (.file number 0 (how == .append) (how == .both) true))

/-- A redirection of which the words have been expanded, up to the body of a here-document. -/
inductive Expanded where
  | file (descriptor : Nat) (how : Opening) (path : String)
  /-- Another stream, or none. -/
  | copy (descriptor : Nat) (source : Option Nat)
  | document (descriptor : Nat) (body : Word)

section

variable (outputOf : Commands → Act String)

/-- Expands the words of a redirection. What is copied has to be a descriptor. -/
def expandRedirection : Redirection → Act Expanded
  | .file descriptor how word => return .file descriptor how (← wordText outputOf false word)
  | .copy descriptor word => do
    match (← wordText outputOf false word).toList with
    | ['-'] => return .copy descriptor none
    | [c] => if c.isDigit then return .copy descriptor (some (decimal [c])) else badNumber
    | _ => badNumber
  | .document descriptor body => return .document descriptor body
where
  /-- What is copied is no descriptor. -/
  badNumber : Act Expanded := do
    change fun p => { p with line := p.readLine }
    fail "Syntax error: Bad fd number"

/-- Expands the words of redirections. -/
def expandRedirections (redirections : List Redirection) : Act (List Expanded) :=
  redirections.mapM (expandRedirection outputOf)

/-- Carries out a redirection. The answer is a complaint if that cannot be done. What is wrong
inside of a here-document has been told already. -/
def redirect : Expanded → Act (Option String)
  | .file descriptor how path => do
    match ← openFile how path with
    | .error complaint => return some complaint
    | .ok n => bind descriptor n
  | .copy descriptor none => do
    change fun p => { p with descriptors := p.descriptors.filter (·.1 ≠ descriptor) }
    return none
  | .copy descriptor (some source) => do
    match (← process).descriptors.lookup source with
    | some n => bind descriptor n
    | none => return some (toString source ++ ": " ++ Errno.badDescriptor.message)
  | .document descriptor body => do
    let reading : Act (Option String) := some <$> wordText outputOf false body
    let text? ← tryCatch reading fun flow =>
      match flow with
      | .fails => return none
      | flow => throw flow
    match text? with
    | none => return some ""
    | some text => bind descriptor (← openStream (.source (.ofBytes (toBytes text))))
where
  /-- Puts a stream in the place of a descriptor. -/
  bind (descriptor stream : Nat) : Act (Option String) := do
    change fun p => { p with descriptors := bindDescriptor p.descriptors descriptor stream }
    return none

/-- Carries out redirections, up to the first that cannot be. -/
def redirectAll : List Expanded → Act (Option String)
  | [] => return none
  | r :: rest => do
    match ← redirect outputOf r with
    | some complaint => return some complaint
    | none => redirectAll rest

/-- Tells what is wrong with a redirection. -/
def tellRedirection (complaint : String) : Act Unit := do
  if !complaint.isEmpty then warn complaint
  finish 2

/-- Breaks the script off because of a redirection. -/
def refuseRedirection (complaint : String) : Act Unit := do
  tellRedirection complaint
  throw .fails

/-- Runs an action under redirections, unless one of them cannot be carried out. Afterwards the
descriptors are what they were. The answer tells whether the action was run. -/
def withExpanded (redirections : List Expanded) (act : Act Unit) : Act Bool := do
  let old := (← process).descriptors
  match ← redirectAll outputOf redirections with
  | some complaint =>
    tellRedirection complaint
    change fun p => { p with descriptors := old }
    return false
  | none =>
    let flow ← flow? act
    change fun p => { p with descriptors := old }
    match flow with
    | some flow => throw flow
    | none => return true

/-- Runs an action under redirections of which the words have still to be expanded. -/
def withRedirections (redirections : List Redirection) (act : Act Unit) : Act Bool := do
  withExpanded outputOf (← expandRedirections outputOf redirections) act

end

end PocketShell.Machine.Script
