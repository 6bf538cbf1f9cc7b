import PocketShell.Text.Blank
import PocketShell.Text.WordChar

/-!
# Filled paragraphs

A paragraph is cut into chunks that a line break may part, and the chunks are put on lines of
a given width, as many as fit on each. A word may be broken after a hyphen between letters and
around a dash of two or more hyphens, and a chunk wider than a line is cut.
-/

namespace PocketShell.Text

/-- The characters that the space between words consists of. -/
def isGap (c : Char) : Bool := c == ' ' || ('\t' ≤ c && c ≤ '\r')

/-- A chunk counts as empty when it has only blanks and separator controls. -/
def isVacant (chunk : List Char) : Bool :=
  chunk.all fun c => isBlank c || ('\x1c' ≤ c && c ≤ '\x1f')

/-- Characters after which a dash parts two words. -/
def joinsDash (c : Char) : Bool := isWordChar c || ['!', '"', '\'', '&', '.', ',', '?'].contains c

/-- A dash is two or more hyphens with a word character behind them. -/
def startsDash (cs : List Char) : Bool :=
  let hyphens := cs.takeWhile (· == '-')
  let rest := cs.dropWhile (· == '-')
  2 ≤ hyphens.length && (rest.head?.map isWordChar).getD false

/-- Whether a word may be broken behind a hyphen: two letters, or a letter, a hyphen and a
letter, stand in front of it (`before` has the nearest first), and a letter and another,
perhaps with a hyphen between them, stand behind it. -/
def breaksAtHyphen (before after : List Char) : Bool :=
  (match before with
    | a :: b :: rest =>
      isLetter a && (isLetter b || (b == '-' && (rest.head?.map isLetter).getD false))
    | _ => false) &&
  (match after with
    | a :: '-' :: b :: _ => isLetter a && isLetter b
    | a :: b :: _ => isLetter a && isLetter b
    | _ => false)

/-- What the chunk being read consists of. `none` is between chunks. -/
inductive ChunkKind where
  | none
  | gap
  | dash
  | word
  deriving DecidableEq, Repr

/-- The kind of the chunk that starts at a character. -/
def kindAt (before : List Char) (c : Char) (cs : List Char) : ChunkKind :=
  if isGap c then .gap
  else if (before.head?.map joinsDash).getD false && startsDash (c :: cs) then .dash
  else .word

/-- Whether the chunk being read goes on with a character. -/
def goesOn (kind : ChunkKind) (before : List Char) (c : Char) (cs : List Char) : Bool :=
  match kind with
  | .none => false
  | .gap => isGap c
  | .dash => c == '-'
  | .word =>
    (c == '-' && breaksAtHyphen before cs) ||
      !(isGap c || ((before.head?.map joinsDash).getD false && startsDash (c :: cs)))

/-- The chunks of a text, the one being read first. `before` holds all that was read, and
`chunk` what belongs to the current chunk, both with the nearest character first. -/
def chunksFrom (kind : ChunkKind) (before chunk : List Char) : List Char → List (List Char)
  | [] => if chunk.isEmpty then [] else [chunk.reverse]
  | c :: cs =>
    let closes := kind == .word && c == '-' && breaksAtHyphen before cs
    if goesOn kind before c cs then
      if closes then (c :: chunk).reverse :: chunksFrom .none (c :: before) [] cs
      else chunksFrom kind (c :: before) (c :: chunk) cs
    else
      let later := chunksFrom (kindAt before c cs) (c :: before) [c] cs
      if chunk.isEmpty then later else chunk.reverse :: later

/-- The chunks of a text. Together they are the text. -/
def chunks (cs : List Char) : List (List Char) := chunksFrom .none [] [] cs

/-- As many chunks as fit in a room, and the chunks that are left. -/
def fitting : Nat → List (List Char) → List (List Char) × List (List Char)
  | _, [] => ([], [])
  | room, c :: cs =>
    if c.length ≤ room then
      let (line, left) := fitting (room - c.length) cs
      (c :: line, left)
    else ([], c :: cs)

/-- Cuts a chunk that is wider than a line: at the end of the room, or behind the last hyphen
before it, if more than hyphens stand in front of that one. -/
def cutChunk (room : Nat) (chunk : List Char) : List Char × List Char :=
  let front := chunk.take room
  let upTo := (front.reverse.dropWhile (· != '-')).reverse
  if upTo.dropLast.any (· != '-') then chunk.splitAt upTo.length else chunk.splitAt room

/-- The line that the next chunks make, and the chunks that are left. -/
def nextLine (width : Nat) (cs : List (List Char)) : List (List Char) × List (List Char) :=
  let (line, left) := fitting width cs
  match left with
  | [] => (line, [])
  | c :: more =>
    if width < c.length then
      let (front, back) := cutChunk (width - line.flatten.length) c
      (line ++ [front], back :: more)
    else (line, left)

/-- A line without a vacant chunk at its end. -/
def trimLine (line : List (List Char)) : List (List Char) :=
  if (line.getLast?.map isVacant).getD false then line.dropLast else line

/-- Lines made of chunks, at most `fuel` of them. A vacant chunk is dropped at the start of
every line but the first. -/
def layOut (width : Nat) : (fuel : Nat) → (first : Bool) → List (List Char) → List (List Char)
  | 0, _, _ => []
  | _, _, [] => []
  | fuel + 1, first, c :: cs =>
    let (line, left) := nextLine width (if !first && isVacant c then cs else c :: cs)
    let line := trimLine line
    if line.isEmpty then layOut width fuel first left
    else line.flatten :: layOut width fuel false left

/-- The lines of a paragraph, none wider than `width`. Each line takes a character or a chunk,
so their numbers bound the count of lines. -/
def fill (width : Nat) (text : String) : List String :=
  let cs := chunks text.toList
  (layOut width (cs.length + text.length + 1) true cs).map String.ofList

end PocketShell.Text
