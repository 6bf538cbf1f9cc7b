import PocketShell.Machine.Utility
import PocketShell.Text.Utf8

/-!
# File systems

A file system keeps nodes by their numbers, and says which node stands at which location under the
root, which is a directory itself. A file can stand at several locations, and it goes on to exist
for those who use it when it stands at none. The order in which locations are kept does not show:
listings are sorted.

Main statement: a node that is put somewhere stands there.

All programs run for one user, and the mode of a node says what that user may do with it. So of
the nine bits of a mode only the three of the owner matter; the nodes of the system, which
belong to someone else, have modes in which these bits are what others are left.
-/

namespace PocketShell.Machine

open Text (Bytes)

/-- The place of a node: the names on the way from the root to it. -/
abbrev Location := List Bytes

/-- Programs that come with the machine and are not scripts. -/
inductive Native where
  | shell
  | utility (u : Utility)
  deriving DecidableEq, Repr

/-- What stands at a location. -/
inductive Node where
  | directory (mode : Nat)
  | file (mode : Nat) (content : Bytes)
  | link (target : Bytes)
  | program (native : Native)
  /-- The device that takes everything and gives nothing. -/
  | device
  deriving DecidableEq, Repr

/-- What a user may do with a node. To execute a directory is to search in it. -/
inductive Permission where
  | read
  | write
  | execute
  deriving DecidableEq, Repr

/-- The bit of a permission in a mode. -/
def Permission.bit : Permission → Nat
  | read => 0o400
  | write => 0o200
  | execute => 0o100

namespace Node

/-- The mode of a node. -/
def mode : Node → Nat
  | directory mode | file mode _ => mode
  | link _ => 0o777
  | program _ => 0o555
  | device => 0o666

/-- Whether the user may do something with a node. -/
def permits (node : Node) (p : Permission) : Bool := node.mode &&& p.bit != 0

/-- Whether a node is a directory. -/
def isDirectory : Node → Bool
  | directory _ => true
  | _ => false

/-- Whether a node is a symbolic link. -/
def isLink : Node → Bool
  | link _ => true
  | _ => false

/-- Whether a node is a file or a program. -/
def isRegular : Node → Bool
  | file _ _ | program _ => true
  | _ => false

end Node

/-- The mode of directories that belong to the system. -/
def systemMode : Nat := 0o555

/-- Points in time, in microseconds since the machine was started. -/
abbrev Time := Nat

/-- A node as it is kept. -/
structure Stored where
  node : Node
  /-- When what is in the node was changed last. It may be said to have been before the machine
  was started. -/
  changed : Int
  deriving DecidableEq, Repr

/-- The nodes, and where they stand. A file can stand at several locations, and a node that stands
nowhere any more can still be in use. -/
structure FileSystem where
  /-- The locations below the root, with the numbers of the nodes that stand there. -/
  entries : List (Location × Nat)
  nodes : List (Nat × Stored)
  /-- The number that the next new node gets. -/
  fresh : Nat
  /-- The time at which changes are made. -/
  now : Time
  deriving DecidableEq, Repr

namespace FileSystem

/-- The number of the root. -/
def rootNumber : Nat := 0

/-- The file system that has a root and nothing else. -/
def empty : FileSystem := ⟨[], [(rootNumber, ⟨.directory systemMode, 0⟩)], rootNumber + 1, 0⟩

/-- The number of the node at a location. The root always stands at its own. -/
def number? (fs : FileSystem) (loc : Location) : Option Nat :=
  if loc = [] then some rootNumber else fs.entries.lookup loc

/-- The node with a number. -/
def nodeOf? (fs : FileSystem) (number : Nat) : Option Node :=
  (fs.nodes.lookup number).map (·.node)

/-- The node at a location. -/
def node? (fs : FileSystem) (loc : Location) : Option Node :=
  (fs.number? loc).bind fs.nodeOf?

/-- When what is in the node with a number was changed last. -/
def changeOf? (fs : FileSystem) (number : Nat) : Option Int :=
  (fs.nodes.lookup number).map (·.changed)

/-- Keeps something under a number, in place of what was kept there. -/
def store (fs : FileSystem) (number : Nat) (stored : Stored) : FileSystem :=
  { fs with nodes := (number, stored) :: fs.nodes.filter (·.1 ≠ number) }

/-- Makes what is in the node with a number count as changed. -/
def touch (fs : FileSystem) (number : Nat) (time : Int) : FileSystem :=
  match fs.nodes.lookup number with
  | some s => fs.store number { s with changed := time }
  | none => fs

/-- Makes the directory around a location count as changed. -/
def touchAbove (fs : FileSystem) (loc : Location) : FileSystem :=
  match fs.number? loc.dropLast with
  | some n => fs.touch n fs.now
  | none => fs

/-- Makes a new node stand at a location where none does. -/
def put (fs : FileSystem) (loc : Location) (node : Node) : FileSystem :=
  let made := { fs with entries := (loc, fs.fresh) :: fs.entries, fresh := fs.fresh + 1 }
  (made.touchAbove loc).store fs.fresh ⟨node, fs.now⟩

/-- Changes the node with a number. -/
def alter (fs : FileSystem) (number : Nat) (change : Node → Node) : FileSystem :=
  match fs.nodes.lookup number with
  | some s => fs.store number { s with node := change s.node }
  | none => fs

/-- Makes the node with a number stand at one more location. -/
def attach (fs : FileSystem) (loc : Location) (number : Nat) : FileSystem :=
  { fs with entries := (loc, number) :: fs.entries }.touchAbove loc

/-- The order of names by their bytes, a beginning before what it begins. -/
def precedes : Bytes → Bytes → Bool
  | [], _ => true
  | _ :: _, [] => false
  | a :: as, b :: bs => a < b || (a == b && precedes as bs)

/-- The name under which a removed directory goes on to stand in the one that it was in, for those
who use it. No path leads there, for the name starts with a slash. -/
def removedName (number : Nat) : Bytes :=
  0x2F :: (Nat.toDigits 10 number).map fun c => UInt8.ofNat c.toNat

/-- Whether a name is that of a removed directory. -/
def isRemovedName (name : Bytes) : Bool := name.head? = some 0x2F

/-- Whether the directory at a location has been removed. -/
def isRemoved (loc : Location) : Bool := loc.any isRemovedName

/-- The names in the directory at a location, sorted. -/
def namesIn (fs : FileSystem) (loc : Location) : List Bytes :=
  (fs.entries.filterMap fun (place, _) =>
    if place.dropLast = loc then place.getLast?.filter (!isRemovedName ·) else none).mergeSort
      precedes

/-- The names in the directory at a location, in the order in which the nodes were made. -/
def numberedNamesIn (fs : FileSystem) (loc : Location) : List Bytes :=
  let named := (fs.namesIn loc).map fun name => (fs.number? (loc ++ [name]), name)
  (named.mergeSort fun a b => a.1.getD 0 ≤ b.1.getD 0).map (·.2)

/-- Moves what stands at a location, with all that is below it, to another location, where nothing
stands. -/
def move (fs : FileSystem) (source goal : Location) : FileSystem :=
  let moved := fs.entries.map fun (place, number) =>
    (if source.isPrefixOf place then goal ++ place.drop source.length else place, number)
  ({ fs with entries := moved }.touchAbove source).touchAbove goal

/-- Removes what stands at a location. -/
def erase (fs : FileSystem) (loc : Location) : FileSystem :=
  match fs.number? loc, (fs.node? loc).any Node.isDirectory with
  | some n, true => fs.move loc (loc.dropLast ++ [removedName n])
  | _, _ => { fs with entries := fs.entries.filter (·.1 ≠ loc) }.touchAbove loc

/-- A location at which the node with a number stands. -/
def locationOf? (fs : FileSystem) (number : Nat) : Option Location :=
  if number = rootNumber then some [] else (fs.entries.find? (·.2 = number)).map (·.1)

@[simp] theorem entries_store (fs : FileSystem) (n : Nat) (s : Stored) :
    (fs.store n s).entries = fs.entries := rfl

@[simp] theorem entries_touch (fs : FileSystem) (n : Nat) (time : Int) :
    (fs.touch n time).entries = fs.entries := by
  unfold touch
  split <;> rfl

@[simp] theorem entries_touchAbove (fs : FileSystem) (loc : Location) :
    (fs.touchAbove loc).entries = fs.entries := by
  unfold touchAbove
  split
  · exact entries_touch ..
  · rfl

theorem node?_put_self (fs : FileSystem) {loc : Location} (h : loc ≠ []) (node : Node) :
    (fs.put loc node).node? loc = some node := by
  simp [node?, number?, nodeOf?, put, store, h]

end FileSystem

end PocketShell.Machine
