import PocketShell.Loop
import PocketShell.Text.Lines

/-!
# The console

Input comes as bytes, one line at a time as a terminal sends it. An arriving line is decoded
as a whole: if it is not a text, none of it is read and reading fails. Within an arrival the
carriage return ends a line too, alone or with the line feed behind it, and a reader sees every
end of a line as a line feed.

`reads` gives what the reads of an input come to. All that can differ from "decode, then split"
happens behind the last line feed, where the input may stop inside a character.
-/

namespace PocketShell.Console

open Text (Bytes decode splitAfter)

/-- The lines as they arrive, each with its line feed, and what stands behind the last one. -/
def arrivals (input : Bytes) : List Bytes := splitAfter (· == 0x0A) input

/-- A text in which every end of a line is a line feed. -/
def unifyEnds : List Char → List Char
  | '\r' :: '\n' :: cs => '\n' :: unifyEnds cs
  | '\r' :: cs => '\n' :: unifyEnds cs
  | c :: cs => c :: unifyEnds cs
  | [] => []

/-- The lines of a text, each with its end. -/
def lines (cs : List Char) : List (List Char) := splitAfter (· == '\n') (unifyEnds cs)

/-- Without a carriage return at the end: while more may come, it could be the first half of
the end of a line. -/
def withoutOpenEnd (cs : List Char) : List Char :=
  if cs.getLast? = some '\r' then cs.dropLast else cs

/-- Whether a line has its end. -/
def isEnded (line : List Char) : Bool := line.getLast? = some '\n'

/-- The fault of input that is not a text. -/
def undecodable : Fault := ⟨.undecodable, "invalid input"⟩

/-- Reading a line. -/
def readOf (line : List Char) : Read := .line (String.ofList line)

/-- What the reads of arriving lines come to. Input that stops inside a character still gives
the lines that were complete by then. -/
def readsOf : List Bytes → List Read
  | [] => []
  | arrival :: rest =>
    match decode arrival with
    | ⟨cs, .whole⟩ => (lines cs).map readOf ++ readsOf rest
    | ⟨_, .broken⟩ => [.fails undecodable]
    | ⟨cs, .cut⟩ => ((lines (withoutOpenEnd cs)).filter isEnded).map readOf ++ [.fails undecodable]

/-- What the reads of an input come to, up to its end or the first that fails. -/
def reads (input : Bytes) : List Read := readsOf (arrivals input)

/-- The reads of an input fail only where the input is not a text. -/
theorem eq_undecodable_of_mem_reads {input : Bytes} {fault : Fault}
    (h : .fails fault ∈ reads input) : fault = undecodable := by
  simp only [reads] at h
  generalize arrivals input = lines at h
  induction lines with
  | nil => simp [readsOf] at h
  | cons arrival rest ih =>
      simp only [readsOf] at h
      split at h
      · rcases List.mem_append.mp h with h | h
        · simp [readOf] at h
        · exact ih h
      · simpa using h
      · simpa [readOf] using h

end PocketShell.Console
