import PocketShell.Machine.Path

/-!
# Using files

What programs do with files and directories by their paths, as far as the permissions of the
user go.
-/

namespace PocketShell.Machine

open Text (Bytes)

/-- The bits of a new file's mode that its maker asks for. -/
def freshFileMode : Nat := 0o666

/-- The bits of a new directory's mode that its maker asks for. -/
def freshDirectoryMode : Nat := 0o777

/-- The bits that are usually kept out of the modes of new nodes. -/
def usualMask : Nat := 0o022

/-- The mode of a new node, without the bits of a mask. -/
def masked (mode mask : Nat) : Nat := mode &&& (0o777 ^^^ mask)

namespace FileSystem

/-- The names in the directory that a path leads to, sorted. -/
def list (fs : FileSystem) (here : Location) (path : Bytes) : Except Errno (List Bytes) := do
  let (loc, node) ← fs.find here path
  if !node.isDirectory then throw .notDirectory
  if !node.permits .read then throw .accessDenied
  return fs.namesIn loc

/-- The number of the node that a path leads to, and the node. A link in the last step is
followed if `follows`. -/
def stat (fs : FileSystem) (here : Location) (path : Bytes) (follows : Bool) :
    Except Errno (Nat × Node) := do
  let (loc, node) ← if follows then fs.find here path else fs.findEntry here path
  match fs.number? loc with
  | some n => return (n, node)
  | none => throw .noEntry

/-- A bound on how deep directories stand in one another. -/
def depth (fs : FileSystem) : Nat := (fs.entries.map (·.1.length)).foldl max 0 + 1

/-- How many locations the node with a number stands at. -/
def nameCount (fs : FileSystem) (number : Nat) : Nat :=
  fs.entries.countP (·.2 = number)

/-- The number of the node that a path leads to, if the user may read it. -/
def openToRead (fs : FileSystem) (here : Location) (path : Bytes) : Except Errno Nat := do
  let (loc, node) ← fs.find here path
  if !node.permits .read then throw .accessDenied
  match fs.number? loc with
  | some n => return n
  | none => throw .noEntry

/-- The content of the node with a number. -/
def contentOf (fs : FileSystem) (number : Nat) : Except Errno Bytes :=
  match fs.nodeOf? number with
  | some (.file _ content) => .ok content
  | some (.directory _) => .error .isDirectory
  | _ => .ok []

/-- The content of the file that a path leads to. -/
def read (fs : FileSystem) (here : Location) (path : Bytes) : Except Errno Bytes := do
  fs.contentOf (← fs.openToRead here path)

/-- Why nothing can be put into a directory, or nothing taken out. -/
def checkChange (fs : FileSystem) (directory : Location) : Except Errno Unit :=
  if isRemoved directory then .error .noEntry
  else if fs.permits directory .write then .ok ()
  else .error .accessDenied

/-- Puts a new node into a directory under a name. -/
def add (fs : FileSystem) (above : Location) (name : Bytes) (node : Node) :
    Except Errno FileSystem := do
  fs.checkChange above
  return fs.put (above ++ [name]) node

/-- The number of a file that is about to be written, which is made with a mode if it is not
there. At most `links` links in last steps are followed. -/
def openToWrite (fs : FileSystem) (mode : Nat) : (links : Nat) → (here : Location) →
    (path : Bytes) → Except Errno (FileSystem × Nat)
  | 0, _, _ => throw .tooManyLinks
  | links + 1, here, path => do
    match ← fs.entry here path with
    | (_, none) => throw .isDirectory
    | (above, some name) =>
      let loc := above ++ [name]
      match fs.node? loc, fs.number? loc with
      | some (.link next), _ => fs.openToWrite mode links above next
      | some node, some number =>
        if node.isDirectory || asksDirectory path then throw .isDirectory
        if node.permits .write then return (fs, number) else throw .accessDenied
      | _, _ =>
        if asksDirectory path then throw .isDirectory
        return (← fs.add above name (.file mode []), fs.fresh)

/-- Makes the node with a number have a content, if it is a file. -/
def setContent (fs : FileSystem) (number : Nat) (content : Bytes) : FileSystem :=
  let set : Node → Node
    | .file mode _ => .file mode content
    | node => node
  (fs.alter number set).touch number fs.now

/-- Makes a directory where steps lead to. -/
def makeDirectoryOf (fs : FileSystem) (here : Location) (steps : List Bytes) (mode : Nat) :
    Except Errno FileSystem := do
  match ← fs.entryOf here steps with
  | (_, none) => throw .alreadyThere
  | (above, some name) =>
    if (fs.node? (above ++ [name])).isSome then throw .alreadyThere
    fs.add above name (.directory mode)

/-- Makes a directory. -/
def makeDirectory (fs : FileSystem) (here : Location) (path : Bytes) (mode : Nat) :
    Except Errno FileSystem := do
  checkPath path
  fs.makeDirectoryOf (startOf here path) (namedSteps path) mode

/-- Makes a directory and those on the way to it that are missing, each in its turn, so that a
step up can leave a directory that has just been made. -/
def makeDirectories (fs : FileSystem) (here : Location) (path : Bytes) (mode : Nat) :
    FileSystem :=
  let steps := namedSteps path
  (List.range steps.length).foldl
    (fun fs n =>
      (fs.makeDirectoryOf (startOf here path) (steps.take (n + 1)) mode).toOption.getD fs)
    fs

/-- The directory and the name in it that a path asks for, if nothing has the name. -/
def newEntry (fs : FileSystem) (here : Location) (path : Bytes) :
    Except Errno (Location × Bytes) := do
  match ← fs.entry here path with
  | (_, none) => throw .alreadyThere
  | (above, some name) =>
    if (fs.node? (above ++ [name])).isSome then throw .alreadyThere
    if asksDirectory path then throw .noEntry
    return (above, name)

/-- Makes a symbolic link. -/
def makeLink (fs : FileSystem) (here : Location) (path target : Bytes) :
    Except Errno FileSystem := do
  let (above, name) ← fs.newEntry here path
  fs.add above name (.link target)

/-- Gives the node with a number one more name. -/
def addName (fs : FileSystem) (here : Location) (path : Bytes) (number : Nat) :
    Except Errno FileSystem := do
  let (above, name) ← fs.newEntry here path
  fs.checkChange above
  return fs.attach (above ++ [name]) number

/-- Removes an empty directory. -/
def removeDirectory (fs : FileSystem) (here : Location) (path : Bytes) :
    Except Errno FileSystem := do
  match ← fs.entry here path with
  | (loc, none) =>
    if loc = [] then throw .busy
    throw (if (namedSteps path).getLast? = some up then .notEmpty else .invalid)
  | (above, some name) =>
    let loc := above ++ [name]
    match fs.node? loc with
    | none => throw .noEntry
    | some (.directory _) =>
      fs.checkChange above
      if fs.namesIn loc ≠ [] then throw .notEmpty
      return fs.erase loc
    | some _ => throw .notDirectory

/-- Removes what a path names, if it is no directory. -/
def removeFile (fs : FileSystem) (here : Location) (path : Bytes) : Except Errno FileSystem := do
  match ← fs.entry here path with
  | (_, none) => throw .isDirectory
  | (above, some name) =>
    let loc := above ++ [name]
    match fs.node? loc with
    | none => throw .noEntry
    | some node =>
      if node.isDirectory then throw .isDirectory
      if asksDirectory path then throw .notDirectory
      fs.checkChange above
      return fs.erase loc

/-- Gives what a path names another name. A file or an empty directory that has the name is
replaced by one of its kind. Of two names for one file, both stay. -/
def rename (fs : FileSystem) (here : Location) (path goalPath : Bytes) :
    Except Errno FileSystem := do
  match ← fs.entry here path, ← fs.entry here goalPath with
  | (above, some name), (goalAbove, some goalName) =>
    let source := above ++ [name]
    let goal := goalAbove ++ [goalName]
    let some node := fs.node? source | throw .noEntry
    if !node.isDirectory && (asksDirectory path || asksDirectory goalPath) then
      throw .notDirectory
    if fs.number? source = fs.number? goal then return fs
    if source.isPrefixOf goal then throw .invalid
    fs.checkChange above
    fs.checkChange goalAbove
    -- a directory that comes to stand in another one is changed itself
    if node.isDirectory && above ≠ goalAbove && !node.permits .write then throw .accessDenied
    match fs.node? goal with
    | none => return fs.move source goal
    | some old =>
      if old.isDirectory && !node.isDirectory then throw .isDirectory
      if !old.isDirectory && node.isDirectory then throw .notDirectory
      if old.isDirectory && fs.namesIn goal ≠ [] then throw .notEmpty
      return (fs.erase goal).move source goal
  | _, _ => throw .busy

/-- Changes the mode of what a path leads to. The nodes of the system do not let it be
changed. -/
def changeMode (fs : FileSystem) (here : Location) (path : Bytes) (mode : Nat) :
    Except Errno FileSystem := do
  let (loc, node) ← fs.find here path
  let some number := fs.number? loc | throw .noEntry
  match node with
  | .file _ content => return fs.alter number fun _ => .file mode content
  | .directory _ =>
    if loc = [] then throw .notPermitted
    return fs.alter number fun _ => .directory mode
  | _ => throw .notPermitted

end FileSystem

end PocketShell.Machine
