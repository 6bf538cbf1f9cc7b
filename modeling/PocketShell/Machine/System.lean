import PocketShell.Host
import PocketShell.Machine.Access
import PocketShell.Machine.Script.ByteText
import PocketShell.Machine.Signal

/-!
# The running system

What programs share while they run: the files, the streams that are open, what has been written
to the outside, the processes with the signals on their way to them, and the time.

A process knows a stream by a descriptor of its own. Descriptors of several processes can stand
for one stream, which then has one position for all of them; so streams are kept in one table.

Programs are run one after the other, also those that run at the same time. So what is written
carries the time of its writing, and the time is set back before a program runs that started
together with another. What one program hands to the next through a pipe is gathered first. A
program that another one does not wait for is run up to the time that the other has reached, and
later once more from its start, to go on from there: see `System.later`.
-/

namespace PocketShell.Machine

open Text (Bytes)

/-- A text to read that is at hand. -/
structure Supply where
  rest : Bytes
  /-- The parts that the rest was written in: when, and how many bytes each has. -/
  parts : List (Time × Nat)
  /-- When all of it was there. -/
  ready : Time
  /-- Its writer had more to write, but was refused. -/
  isCut : Bool
  /-- Although the text was cut, more was asked for than there is. -/
  isSpent : Bool

/-- A text that is being gathered. -/
structure Gathering where
  /-- The parts and the times at which they were written, the newest first. -/
  parts : List (Time × Bytes)
  /-- How many bytes there is still room for, if there is a bound. -/
  room : Option Nat
  /-- From when on nothing more is taken, if there is such a time. -/
  closing : Option Time
  /-- Something was refused. -/
  isCut : Bool

/-- A stream that is open. -/
inductive Channel where
  /-- A stream that the machine was given. -/
  | outside (stream : Stream)
  | device
  /-- A file by its number, and the position in it. -/
  | file (number : Nat) (position : Nat) (appends reads writes : Bool)
  /-- What a pipe has to read. -/
  | source (supply : Supply)
  /-- What was written into a pipe. -/
  | sink (gathering : Gathering)

/-- What was written to the outside. -/
structure Written where
  time : Time
  stream : Stream
  bytes : Bytes

/-- A signal on its way to a process. -/
structure Sent where
  process : Nat
  signal : Nat
  time : Time
  deriving DecidableEq

/-- What programs share at a point in time. -/
structure World where
  files : FileSystem
  channels : Array Channel
  /-- What went to the outside, the newest first. -/
  writes : List Written
  /-- The processes that have not ended, the newest first. -/
  processes : List Nat
  nextProcess : Nat
  /-- Signals that their processes have not seen yet, the oldest first. -/
  signals : List Sent

/-- A world and the time in it. -/
structure System extends World where
  clock : Time
  /-- How far the time may go before it is of no use to run on. -/
  horizon : Option Time
  /-- What the world is known to be like behind points in time that are still to come, because a
  program is run once more. -/
  later : List (Time × World)

/-- The descriptors of a process and the streams that they stand for. -/
abbrev Descriptors := List (Nat × Nat)

namespace Supply

/-- A text that has been there all the time. -/
def ofBytes (bytes : Bytes) : Supply := ⟨bytes, [], 0, false, false⟩

/-- The parts behind some bytes, and the time of the last part that the bytes reach into. -/
def passParts : (count : Nat) → (time : Time) → List (Time × Nat) → List (Time × Nat) × Time
  | 0, time, parts => (parts, time)
  | _, time, [] => ([], time)
  | count, time, (t, size) :: parts =>
    if count < size then ((t, size - count) :: parts, max time t)
    else passParts (count - size) (max time t) parts

/-- How many bytes there are at a time. -/
def sizeAt (s : Supply) (time : Time) : Nat :=
  s.rest.length - ((s.parts.filter (time < ·.1)).map (·.2)).foldl (· + ·) 0

/-- Takes as many bytes as `count` makes of the rest, in whole blocks as far as there is more when
that can be done: the bytes, what is left, and the time. Who would take more if there were more
waits for the end of the text. -/
def take (s : Supply) (now : Time) (block : Nat) (count : Bytes → Nat) : Bytes × Supply × Time :=
  let needed := count s.rest
  let reached := (passParts needed now s.parts).2
  let wantsMore := s.rest.length ≤ needed && s.rest.length < count (s.rest ++ [0x0A])
  let time := if wantsMore then max reached s.ready else reached
  let k := max needed (min ((needed + block - 1) / block * block) (s.sizeAt time))
  (s.rest.take k,
    { s with
      rest := s.rest.drop k, parts := (passParts k now s.parts).1
      isSpent := s.isSpent || (s.isCut && wantsMore) },
    time)

end Supply

namespace Gathering

/-- Nothing, with what bounds there are for what is added. -/
def empty (room : Option Nat) (closing : Option Time) : Gathering := ⟨[], room, closing, false⟩

/-- Adds what was written at a time, as far as that can be taken. -/
def push (g : Gathering) (time : Time) (bytes : Bytes) : Gathering :=
  if g.closing.any (· < time) then { g with isCut := true }
  else
    match g.room with
    | none => { g with parts := (time, bytes) :: g.parts }
    | some room =>
      if bytes.length ≤ room then
        { g with parts := (time, bytes) :: g.parts, room := some (room - bytes.length) }
      else { g with parts := (time, bytes.take room) :: g.parts, room := some 0, isCut := true }

/-- The parts in the order in which they were written. -/
def ordered (g : Gathering) : List (Time × Bytes) :=
  g.parts.reverse.mergeSort fun a b => a.1 ≤ b.1

/-- The text in the order in which it was written. -/
def text (g : Gathering) : Bytes := (g.ordered.map (·.2)).flatten

/-- The gathered text as one to read, of which all is there at a time. -/
def supply (g : Gathering) (ready : Time) : Supply :=
  ⟨g.text, g.ordered.map fun (t, bytes) => (t, bytes.length), ready, g.isCut, false⟩

/-- When something was written last. -/
def lastTime (g : Gathering) : Time := (g.parts.map (·.1)).foldl max 0

end Gathering

namespace System

/-- The descriptors of the first program: nothing to read, and the two streams outside. -/
def firstDescriptors : Descriptors := [(0, 0), (1, 1), (2, 2)]

/-- The number of the first process. -/
def firstProcess : Nat := 4242

/-- How exactly the times of changes are told. -/
def tick : Time := 4000

/-- The system in which the first process is about to run, later than all that the files know
of. -/
def start (files : FileSystem) : System :=
  { files, channels := #[.device, .outside .output, .outside .diagnostics], writes := []
    processes := [firstProcess], nextProcess := firstProcess + 1, signals := []
    clock := (files.now / tick + 1) * tick, horizon := none, later := [] }

/-- The files, ready to be changed now. -/
def current (sys : System) : FileSystem := { sys.files with now := sys.clock / tick * tick }

/-- How long something may still be written after the first process has ended. -/
def afterglow : Time := 20000

/-- What was written to the outside, in the order of the time, unless that came too late. -/
def written (sys : System) : List (Stream × Bytes) :=
  let timely := sys.writes.reverse.filter (·.time ≤ sys.clock + afterglow)
  (timely.mergeSort fun a b => a.time ≤ b.time).map fun w => (w.stream, w.bytes)

/-- The system at a point in time, with the world that is known to be there. -/
def waitUntil (sys : System) (time : Time) : System :=
  let reached := sys.later.takeWhile (·.1 < time)
  let world := (reached.getLast?.map (·.2)).getD sys.toWorld
  { toWorld := world, clock := max sys.clock time, horizon := sys.horizon
    later := sys.later.drop reached.length }

/-- Lets time go by. -/
def pass (sys : System) (time : Time) : System := sys.waitUntil (sys.clock + time)

/-- Sets the clock, maybe to a time that has been already. -/
def atTime (sys : System) (time : Time) : System := { sys with clock := time }

/-- Whether it is of no use to run on. -/
def isOver (sys : System) : Bool := sys.horizon.any (· < sys.clock)

/-- Adds a stream to the table. -/
def openChannel (sys : System) (c : Channel) : System × Nat :=
  ({ sys with channels := sys.channels.push c }, sys.channels.size)

/-- The stream with a number. -/
def channel? (sys : System) (n : Nat) : Option Channel := sys.channels[n]?

/-- Changes a stream. -/
def setChannel (sys : System) (n : Nat) (c : Channel) : System :=
  { sys with channels := sys.channels.setIfInBounds n c }

/-- A content after bytes were written at a position in it. A gap before them is filled with
zeros. -/
def patched (content : Bytes) (position : Nat) (bytes : Bytes) : Bytes :=
  content.take position ++ List.replicate (position - content.length) 0 ++ bytes ++
    content.drop (position + bytes.length)

/-- Writes to a stream. A pipe that does not take all of it is one that nobody reads. -/
def write (sys : System) (n : Nat) (bytes : Bytes) : System × Option Errno :=
  if bytes.isEmpty then (sys, none)
  else
    match sys.channel? n with
    | some (.outside stream) =>
      ({ sys with writes := ⟨sys.clock, stream, bytes⟩ :: sys.writes }, none)
    | some .device => (sys, none)
    | some (.sink g) =>
      let g := g.push sys.clock bytes
      (sys.setChannel n (.sink g), if g.isCut then some .brokenPipe else none)
    | some (.file number position appends reads true) =>
      let content := (sys.files.contentOf number).toOption.getD []
      let position := if appends then content.length else position
      let files := sys.current.setContent number (patched content position bytes)
      ({ sys with files }.setChannel n (.file number (position + bytes.length) appends reads true),
        none)
    | _ => (sys, some .badDescriptor)

/-- Reads from a stream as many bytes as `count` makes of what is left there; from a pipe, whole
blocks are read. -/
def read (sys : System) (n : Nat) (block : Nat) (count : Bytes → Nat) :
    Except Errno (System × Bytes) :=
  match sys.channel? n with
  | some .device => .ok (sys, [])
  | some (.source s) =>
    let (bytes, left, time) := s.take sys.clock block count
    .ok ((sys.waitUntil time).setChannel n (.source left), bytes)
  | some (.file number position appends true writes) => do
    let rest := (← sys.files.contentOf number).drop position
    let k := count rest
    return (sys.setChannel n (.file number (position + k) appends true writes), rest.take k)
  | _ => .error .badDescriptor

/-- How many bytes some lines have, with their ends. -/
def linesLength : (count : Nat) → Bytes → Nat
  | 0, _ => 0
  | count + 1, bytes =>
    match bytes.findIdx? (· == 0x0A) with
    | some i => i + 1 + linesLength count (bytes.drop (i + 1))
    | none => bytes.length

/-- What has been gathered in a stream. -/
def gathered (sys : System) (n : Nat) : Gathering :=
  match sys.channel? n with
  | some (.sink g) => g
  | _ => .empty none none

/-- Lets what was gathered in a stream be read from it. -/
def turnAround (sys : System) (n : Nat) : System :=
  sys.setChannel n (.source ((sys.gathered n).supply sys.clock))

/-- Whether more was asked of a stream than it could hand on. -/
def isSpent (sys : System) (n : Nat) : Bool :=
  match sys.channel? n with
  | some (.source s) => s.isSpent
  | _ => false

/-- Starts a process. -/
def startProcess (sys : System) : System × Nat :=
  ({ sys with processes := sys.nextProcess :: sys.processes, nextProcess := sys.nextProcess + 1 },
    sys.nextProcess)

/-- Ends a process. -/
def endProcess (sys : System) (process : Nat) : System :=
  { sys with
    processes := sys.processes.filter (· ≠ process)
    signals := sys.signals.filter (·.process ≠ process) }

/-- The process that all others stem from. It is out of reach. -/
def rootProcess : Nat := 1

/-- Sends a signal to a process. Signal 0 only asks whether that could be done. -/
def send (sys : System) (process signal : Nat) : Except Errno System :=
  if process = rootProcess then .error .notPermitted
  else if !sys.processes.contains process then .error .noProcess
  else if signal = 0 then .ok sys
  else .ok { sys with signals := sys.signals ++ [⟨process, signal, sys.clock⟩] }

/-- The signals that a process gets until a time, of those that something holds of, in the order
of the time. -/
def signalsFor (sys : System) (process : Nat) (time : Time) (holds : Nat → Bool) : List Sent :=
  let due := sys.signals.filter fun s => s.process = process && s.time ≤ time && holds s.signal
  due.mergeSort fun a b => a.time ≤ b.time

/-- Takes what a process gets of a signal until a time off its way. -/
def withoutSignal (sys : System) (process signal : Nat) (time : Time) : System :=
  { sys with
    signals := sys.signals.filter fun s =>
      !(s.process = process && s.signal = signal && s.time ≤ time) }

end System

/-- What a program is given when it starts. Texts are bytes seen as characters. -/
structure Call where
  /-- The name that it was called by, and its arguments. -/
  arguments : List String
  environment : List (String × String)
  here : Location
  descriptors : Descriptors
  /-- The bits that are kept out of the modes of new nodes. -/
  mask : Nat
  /-- The signals that it does not take notice of. -/
  ignored : List Nat
  /-- The process that it runs in. -/
  process : Nat
  /-- The process that called it. -/
  caller : Nat

namespace Call

/-- Writes to a descriptor. What cannot be written is lost. -/
def write (call : Call) (descriptor : Nat) (text : String) (sys : System) : System :=
  match call.descriptors.lookup descriptor with
  | some n => (sys.write n (Script.toBytes text)).1
  | none => sys

/-- Reads from a descriptor as many bytes as `count` makes of what is left there; from a pipe,
whole blocks are read. -/
def read (call : Call) (descriptor : Nat) (block : Nat) (count : Bytes → Nat) (sys : System) :
    Except Errno (System × Bytes) :=
  match call.descriptors.lookup descriptor with
  | some n => sys.read n block count
  | none => .error .badDescriptor

/-- Whether a signal ends a program that has no plans for signals. -/
def isDeadly (call : Call) (signal : Nat) : Bool :=
  !Signal.isHarmless signal && !(Signal.canBeCaught signal && call.ignored.contains signal)

end Call

/-- How a program is executed by its path: the system after it and its status, or why it was
refused. -/
abbrev Executor := System → (path : String) → Call → Except Errno (System × Int)

end PocketShell.Machine
