import PocketShell.Machine.Script.WordReading
import PocketShell.Machine.Utility.Request
import PocketShell.Text.Blank
import PocketShell.Text.Lines

/-!
# Reading files

The utilities that write or count what is in files or comes from the input.
-/

namespace PocketShell.Machine.Utility

open Script (toBytes ofBytes byteText charactersOf)
open Text (Bytes)
open Job

/-- The lines of a content, with their ends. -/
def linesOf (content : Bytes) : List Bytes := PocketShell.Text.splitAfter (· == 0x0A) content

/-- The operands, or the input if there are none. -/
def Request.sources (r : Request) : List String :=
  if r.operands.isEmpty then ["-"] else r.operands

/-- Complains that the input is closed, if it has been asked for. -/
def checkInput (sources : List String) (status : Int) : Job Int := do
  if sources.contains "-" && ((← call).descriptors.lookup 0).isNone then
    complain ("-: " ++ Errno.badDescriptor.message)
    return 1
  return status

/-- How contents are shown. -/
structure Display where
  numbersAll : Bool
  numbersFilled : Bool
  squeezes : Bool
  showsEnds : Bool
  showsTabs : Bool
  showsControls : Bool

/-- What has been shown: whether the next byte starts a line, the number of lines, and whether the
last line was empty. -/
structure Shown where
  atStart : Bool
  count : Nat
  wasEmpty : Bool

namespace Display

/-- The way to show contents that a call asks for. -/
def ofRequest (r : Request) : Display where
  numbersAll := r.has 'n' && !r.has 'b'
  numbersFilled := r.has 'b'
  squeezes := r.has 's'
  showsEnds := ['A', 'e', 'E'].any r.has
  showsTabs := ['A', 't', 'T'].any r.has
  showsControls := ['A', 'e', 't', 'v'].any r.has

/-- A byte of ASCII with a caret in place of its control bit. -/
def withCaret (b : UInt8) : Bytes :=
  if b < 0x20 then [0x5E, b + 0x40] else if b = 0x7F then [0x5E, 0x3F] else [b]

/-- A byte of a line. -/
def byte (d : Display) (b : UInt8) : Bytes :=
  if b = 0x09 then if d.showsTabs then withCaret b else [b]
  else if !d.showsControls then [b]
  else if b < 0x80 then withCaret b
  else [0x4D, 0x2D] ++ withCaret (b - 0x80)

/-- A line, or the part of one that a content ends with. -/
def line (d : Display) (bs : Bytes) : Bytes :=
  if bs.getLast? = some 0x0A then
    let body := bs.dropLast
    if !d.showsEnds then (body.map d.byte).flatten ++ [0x0A]
    else if body.getLast? = some 0x0D then
      (body.dropLast.map d.byte).flatten ++ withCaret 0x0D ++ [0x24, 0x0A]
    else (body.map d.byte).flatten ++ [0x24, 0x0A]
  else (bs.map d.byte).flatten

/-- A line together with its number, and what has been shown with it. -/
def next (d : Display) (s : Shown) (bs : Bytes) : Bytes × Shown :=
  let isEmpty := s.atStart && bs = [0x0A]
  let ends := bs.getLast? = some 0x0A
  if isEmpty && s.wasEmpty && d.squeezes then ([], s)
  else if s.atStart && (d.numbersAll || (d.numbersFilled && !isEmpty)) then
    let n := toString (s.count + 1)
    let mark := String.ofList (List.replicate (6 - n.length) ' ') ++ n ++ "\t"
    (toBytes mark ++ d.line bs, ⟨ends, s.count + 1, isEmpty⟩)
  else (d.line bs, ⟨ends, s.count, isEmpty⟩)

/-- A content, and what has been shown with it. -/
def content (d : Display) (s : Shown) (bs : Bytes) : Bytes × Shown :=
  let (shown, s) := (linesOf bs).foldl
    (fun (shown, s) line =>
      let (text, s) := d.next s line
      (text :: shown, s))
    (([] : List Bytes), s)
  (shown.reverse.flatten, s)

end Display

/-- The options of `cat`. -/
def catChoices : List Choice :=
  [.flag 'b' ["number-nonblank"], .flag 'n' ["number"], .flag 's' ["squeeze-blank"],
   .flag 'v' ["show-nonprinting"], .flag 'E' ["show-ends"], .flag 'T' ["show-tabs"],
   .flag 'A' ["show-all"], .flag 'e' [], .flag 't' [], .flag 'u' []]

/-- The number of the file behind a descriptor, and the position in it. -/
def openFile? (descriptor : Nat) : Job (Option (Nat × Nat)) := do
  let sys ← get
  match (← call).descriptors.lookup descriptor >>= sys.channel? with
  | some (.file number position appends _ _) =>
    let size := ((sys.files.contentOf number).toOption.getD []).length
    return some (number, if appends then size else position)
  | _ => return none

/-- Whether an operand leads to the file that the output goes to, at a place in front of the end
of the output. -/
def isOwnOutput (operand : String) : Job Bool := do
  let source ←
    if operand = "-" then openFile? 0
    else
      let found := (← files).stat (← call).here (toBytes operand) true
      pure (found.toOption.map fun (number, _) => (number, 0))
  match source, ← openFile? 1 with
  | some (number, position), some (goal, bound) => return number = goal && position < bound
  | _, _ => return false

/-- Writes contents one behind the other. -/
def catJob : Job Int :=
  withRequest catChoices fun r => do
    if ((← call).descriptors.lookup 1).isNone then
      complain ("standard output: " ++ Errno.badDescriptor.message)
      return 1
    let d := Display.ofRequest r
    let mut shown : Shown := ⟨true, 0, false⟩
    let mut status := 0
    for operand in r.sources do
      if ← isOwnOutput operand then
        complain (quotedName operand ++ ": input file is output file")
        status := 1
      else
        match ← content operand with
        | .error e =>
          complain (quotedName operand ++ ": " ++ e.message)
          status := 1
        | .ok bytes =>
          let (text, after) := d.content shown bytes
          shown := after
          if let some e := ← write text then
            complainOfWriting e
            return 1
    if r.sources.contains "-" && ((← call).descriptors.lookup 0).isNone then
      complain ("closing standard input: " ++ Errno.badDescriptor.message)
      return 1
    return status

/-- How much of a content is asked for: a number of lines or bytes, counted from the start or from
the end. -/
structure Amount where
  isBytes : Bool
  count : Nat
  isSigned : Bool

/-- The multiples that a suffix stands for. -/
def multiples : List (String × Nat) :=
  let letters := ["K", "M", "G", "T", "P", "E", "Z", "Y", "R", "Q"].zipIdx
  [("", 1), ("b", 512), ("k", 1024), ("m", Nat.pow 1024 2), ("kB", 1000), ("kiB", 1024), ("KB", 1000)] ++
    letters.flatMap fun (c, i) =>
      [(c, Nat.pow 1024 (i + 1)), (c ++ "iB", Nat.pow 1024 (i + 1)), (c ++ "B", Nat.pow 1000 (i + 1))]

/-- The number that digits with a suffix stand for, or what is wrong with them. -/
def countOf (kind s shown : String) : Except String Nat :=
  let cs := s.toList.dropWhile fun c => c == ' ' || ('\t' ≤ c && c ≤ '\r')
  let cs := if cs.head? = some '+' then cs.tail else cs
  let ds := cs.takeWhile Char.isDigit
  let invalid := "invalid number of " ++ kind ++ ": " ++ curly shown
  match multiples.lookup (String.ofList (cs.drop ds.length)) with
  | some m =>
    if ds.isEmpty then .error invalid
    else
      let n := Script.decimal ds * m
      if n < Nat.pow 2 64 then .ok n
      else .error (invalid ++ ": Value too large for defined data type")
  | none => .error invalid

/-- The options of `head` and `tail`. -/
def partChoices : List Choice :=
  [.withValue 'c' ["bytes"], .withValue 'n' ["lines"], .flag 'q' ["quiet", "silent"],
   .flag 'v' ["verbose"], .flag 'z' ["zero-terminated"]]

/-- The amount that the value of an option asks for. A sign counts from the other side. -/
def amountOf (sign : Char) (option : Char) (value : String) : Except String Amount := do
  let isBytes := option == 'c'
  let kind := if isBytes then "bytes" else "lines"
  let isSigned := value.toList.head? = some sign
  let digits := if value.startsWith "-" then String.ofList value.toList.tail else value
  return ⟨isBytes, ← countOf kind digits digits, isSigned⟩

/-- How many bytes are read at once from a pipe. -/
def blockSize : Nat := 8192

/-- Writes a part of contents, each behind its name if there are several. `part` is what to write
of a content, and `count` how much has to be read from the input for it, which is done in
blocks. -/
def writeParts (r : Request) (part : Bytes → Bytes) (block : Nat) (count : Bytes → Nat)
    (closed : String) : Job Int := do
  let sources := r.sources
  let hasTitles :=
    match r.lastOf ['q', 'v'] with
    | some c => c == 'v'
    | none => 1 < sources.length
  let mut isFirst := true
  let mut status := 0
  for operand in sources do
    let name := if operand = "-" then "standard input" else operand
    let title := toBytes ((if isFirst then "" else "\n") ++ "==> " ++ name ++ " <==\n")
    let read ← if operand = "-" then inputOf block count else content operand
    match read with
    | .ok bytes =>
      let title := if hasTitles then title else []
      isFirst := false
      if let some e := ← write (title ++ part bytes) then
        complainOfWriting e
        return 1
    | .error .isDirectory =>
      if hasTitles then
        isFirst := false
        let _ ← write title
      complain ("error reading " ++ quoted name ++ ": " ++ Errno.isDirectory.message)
      status := 1
    | .error .badDescriptor =>
      complain (closed ++ " " ++ quoted name ++ ": " ++ Errno.badDescriptor.message)
      status := 1
    | .error e =>
      complain ("cannot open " ++ quoted name ++ " for reading: " ++ e.message)
      status := 1
  checkInput sources status

/-- The start of a content, or all but its end. -/
def startOf (isEnd : UInt8 → Bool) (a : Amount) (content : Bytes) : Bytes :=
  let keep (size : Nat) := if a.isSigned then size - a.count else a.count
  if a.isBytes then content.take (keep content.length)
  else
    let lines := PocketShell.Text.splitAfter isEnd content
    (lines.take (keep lines.length)).flatten

/-- The end of a content, or all from a place on. -/
def endOf (isEnd : UInt8 → Bool) (a : Amount) (content : Bytes) : Bytes :=
  let drop (size : Nat) := if a.isSigned then a.count - 1 else size - a.count
  if a.isBytes then content.drop (drop content.length)
  else
    let lines := PocketShell.Text.splitAfter isEnd content
    (lines.drop (drop lines.length)).flatten

/-- The mark that ends a line. -/
def lineEnd (r : Request) (b : UInt8) : Bool := b == if r.has 'z' then 0 else 0x0A

/-- The amount that a request for a part ends up with, or what is wrong with it. -/
def amountIn (sign : Char) (start : Amount) (r : Request) : Except String Amount :=
  r.options.foldlM
    (fun a (c, value?) =>
      match value? with
      | some value => if c == 'n' || c == 'c' then amountOf sign c value else .ok a
      | none => .ok a) start

/-- Takes a call apart, with the amount that it ends up with. An amount that makes no sense is told
before an option that is not known behind it, and a digit among the letters is refused in a way
of its own. -/
def withAmount (sign : Char) (start : Amount) (words : List String)
    (refuseDigit : Char → Job Int) (act : Request → Amount → Job Int) : Job Int := do
  let checked := (List.range (words.length + 1)).filterMap fun n =>
    (Request.take partChoices false none (words.take n)).toOption
  match (checked.getLast?.map (amountIn sign start)).getD (.ok start) with
  | .error complaint =>
    complain complaint
    return 1
  | .ok amount =>
    match Request.take partChoices false none words with
    | .error complaint =>
      match (complaint.splitOn "invalid option -- '").map String.toList with
      | [[], c :: _] => if c.isDigit then refuseDigit c else misuse complaint
      | _ => misuse complaint
    | .ok r => act r amount

/-- The amount in one argument with digits, and what is left of it. -/
def oldAmount (cs : List Char) : Nat × List Char :=
  let ds := cs.takeWhile Char.isDigit
  (if ds.isEmpty then 10 else Script.decimal ds, cs.drop ds.length)

/-- Writes the start of contents. -/
def headJob : Job Int := do
  let run (start : Amount) (letters : List Char) (words : List String) : Job Int :=
    withAmount '-' start words refuseTrailing fun r a => do
      let r := { r with options := letters.map (·, none) ++ r.options }
      let count (bytes : Bytes) : Nat :=
        if a.isSigned then bytes.length else (startOf (lineEnd r) a bytes).length
      writeParts r (startOf (lineEnd r) a) (if a.isBytes then 1 else blockSize) count "error reading"
  match ← arguments with
  | first :: rest =>
    match first.toList with
    | '-' :: c :: cs =>
      if c.isDigit then
        let (n, letters) := oldAmount (c :: cs)
        let known := ['c', 'b', 'k', 'm', 'l', 'q', 'v', 'z']
        match letters.find? (!known.contains ·) with
        | some x => refuseTrailing x
        | none =>
          let factor := letters.filterMap (([('b', 512), ('k', 1024), ('m', Nat.pow 1024 2)].lookup ·))
          let isBytes := (letters.filter ['c', 'b', 'k', 'm', 'l'].contains).getLast?.any (· != 'l')
          run ⟨isBytes, n * factor.getLastD 1, false⟩ (letters.filter ['q', 'v', 'z'].contains) rest
      else run ⟨false, 10, false⟩ [] (first :: rest)
    | _ => run ⟨false, 10, false⟩ [] (first :: rest)
  | [] => run ⟨false, 10, false⟩ [] []
where
  /-- Refuses a letter or digit that can only stand in the first argument. -/
  refuseTrailing (c : Char) : Job Int :=
    misuse ("invalid trailing option -- " ++ String.singleton c)

/-- The amount in an argument of the old form, which stands in front of at most one operand. -/
def oldTail? (words : List String) : Option (Amount × List String) :=
  match words with
  | first :: rest =>
    let isAlone :=
      match rest with
      | [] => true
      | [operand] => !operand.startsWith "-" || operand = "-"
      | ["--", _] => true
      | _ => false
    match first.toList with
    | sign :: cs =>
      let (n, letters) := oldAmount cs
      let isOption := cs.isEmpty || cs = ['c']
      if !isAlone || !(sign == '+' || (sign == '-' && !isOption)) then none
      else
        match letters with
        | [] | ['l'] => some (⟨false, n, sign == '+'⟩, rest)
        | ['c'] => some (⟨true, n, sign == '+'⟩, rest)
        | ['b'] => some (⟨true, n * 512, sign == '+'⟩, rest)
        | _ => none
    | [] => none
  | [] => none

/-- Writes the end of contents. -/
def tailJob : Job Int := do
  let run (start : Amount) (words : List String) : Job Int :=
    withAmount '+' start words refuseDigit fun r a =>
      writeParts r (endOf (lineEnd r) a) 1 List.length "cannot fstat"
  let words ← arguments
  match oldTail? words with
  | some (a, rest) => run a rest
  | none => run ⟨false, 10, false⟩ words
where
  /-- Refuses a digit that can only stand in the first argument. -/
  refuseDigit (c : Char) : Job Int := do
    complain ("option used in invalid context -- " ++ String.singleton c)
    return 1

/-- The numbers of lines, words, characters and bytes in a content, and the length of its longest
line. Characters without a shape are part of no word. -/
structure Counts where
  lines : Nat
  words : Nat
  characters : Nat
  bytes : Nat
  longest : Nat

namespace Counts

/-- Nothing. -/
def zero : Counts := ⟨0, 0, 0, 0, 0⟩

/-- The counts of two contents together. -/
def add (a b : Counts) : Counts :=
  ⟨a.lines + b.lines, a.words + b.words, a.characters + b.characters, a.bytes + b.bytes,
    max a.longest b.longest⟩

/-- A position in a content: the counts so far, the place in the line, and whether that is inside
a word. -/
structure Progress where
  counts : Counts
  column : Nat
  inWord : Bool

/-- What a character adds. -/
def step (p : Progress) (cs : List Char) : Progress :=
  let c := p.counts
  let isWhole := (Text.decode? (cs.map fun c => UInt8.ofNat c.toNat)).isSome
  let c := { c with bytes := c.bytes + cs.length, characters := c.characters + if isWhole then 1 else 0 }
  let code := Char.ofNat (Script.codeOf cs)
  let longest := max c.longest p.column
  if !isWhole then { p with counts := c }
  else if code == '\n' then ⟨{ c with lines := c.lines + 1, longest }, 0, false⟩
  else if code == '\r' || code == '\x0c' then ⟨{ c with longest }, 0, false⟩
  else if code == '\t' then ⟨c, p.column + 8 - p.column % 8, false⟩
  else if code == '\x0b' then ⟨c, p.column, false⟩
  else if Text.isBlank code || [0xA0, 0x2007, 0x202F, 0x2060].contains code.toNat then
    ⟨c, p.column + 1, false⟩
  else if code.toNat < 0x20 || (0x7F ≤ code.toNat && code.toNat < 0xA0) then { p with counts := c }
  else
    let words := if p.inWord then c.words else c.words + 1
    ⟨{ c with words }, p.column + 1, true⟩

/-- The counts of a content. -/
def ofContent (content : Bytes) : Counts :=
  let p := (charactersOf (byteText content)).foldl step ⟨zero, 0, false⟩
  { p.counts with longest := max p.counts.longest p.column }

/-- The numbers that letters ask for. -/
def chosen (c : Counts) (letters : Char → Bool) : List Nat :=
  let all := [('l', c.lines), ('w', c.words), ('m', c.characters), ('c', c.bytes), ('L', c.longest)]
  (all.filter fun (letter, _) => letters letter).map (·.2)

end Counts

/-- The options of `wc`. -/
def wcChoices : List Choice :=
  [.flag 'c' ["bytes"], .flag 'm' ["chars"], .flag 'l' ["lines"],
   .flag 'L' ["max-line-length"], .flag 'w' ["words"],
   .named 'T' ["total"] .needed]

/-- Counts lines, words and bytes. -/
def wcJob : Job Int :=
  withRequest wcChoices fun r => do
    let isPlain := !(['c', 'm', 'l', 'L', 'w'].any r.has)
    let isAsked (c : Char) : Bool := if isPlain then ['l', 'w', 'c'].contains c else r.has c
    let call ← call
    let files ← files
    let sources := r.sources
    let inputFile := (← openFile? 0).map fun (number, position) =>
      ((files.contentOf number).toOption.getD []).length - position
    let size (operand : String) : Option (Option Nat) :=
      if operand = "-" then
        if (call.descriptors.lookup 0).isNone then none else some inputFile
      else
        match files.find call.here (toBytes operand) with
        | .ok (_, node) =>
          some (if node.isRegular then
            some ((files.read call.here (toBytes operand)).toOption.getD []).length else none)
        | .error _ => none
    let mut rows : List (Counts × String) := []
    let mut isDone := true
    for operand in sources do
      let name := if r.operands.isEmpty then "'standard input'" else quotedName operand
      if operand.isEmpty then
        complain "invalid zero-length file name"
        isDone := false
      else
        match ← content operand with
        | .ok bytes => rows := (Counts.ofContent bytes, operand) :: rows
        | .error e =>
          complain (name ++ ": " ++ e.message)
          isDone := false
          if e = .isDirectory || e = .badDescriptor then rows := (.zero, operand) :: rows
    let found := rows.reverse
    let total := found.foldl (fun t (c, _) => t.add c) Counts.zero
    let withTotal :=
      match r.value? 'T' with
      | some "always" => true
      | some "never" => false
      | _ => 1 < sources.length
    let sizes := sources.filterMap size
    let isLone := sources.length = 1 && (total.chosen isAsked).length = 1
    let isPiped := r.operands.isEmpty && inputFile.isNone && (call.descriptors.lookup 0).isSome
    let isSized := sizes.all (·.isSome) && !isPiped
    let width :=
      if isLone then 1
      else if !isSized then 7
      else (toString ((sizes.map (·.getD 0)).foldl (· + ·) 0)).length
    let row (c : Counts) (name : String) : String :=
      let cells := (c.chosen isAsked).map fun n =>
        String.ofList (List.replicate (width - (toString n).length) ' ') ++ toString n
      " ".intercalate (cells ++ if name.isEmpty then [] else [name]) ++ "\n"
    let shown (name : String) := if name.toList.contains '\n' then quotedName name else name
    let lines := found.map fun (c, name) => row c (if r.operands.isEmpty then "" else shown name)
    let lines := if withTotal then lines ++ [row total "total"] else lines
    let status ← checkInput sources (if isDone then 0 else 1)
    say (String.join lines) status

end PocketShell.Machine.Utility
