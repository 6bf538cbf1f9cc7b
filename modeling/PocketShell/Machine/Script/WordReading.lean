import PocketShell.Machine.Script.Cursor

/-!
# Reading words

A word is read piece by piece. What a character means depends on what it stands in: a bare word,
braces, quotes, a here-document or an integer expression.

Commands can stand inside of words. How they are read is a parameter here, `substitution`, which
is told whether they end at a closing bracket or at the end of the text.
-/

namespace PocketShell.Machine.Script

/-- How the end of a here-document is marked. -/
structure EndMark where
  text : List Char
  stripsTabs : Bool

namespace EndMark

/-- What follows the line with a mark, if that line comes next, and how many lines that takes,
as a line may be continued. -/
def behind? : (mark : List Char) → List Char → Option (Nat × List Char)
  | mark, '\\' :: '\n' :: cs => (behind? mark cs).map fun (n, cs) => (n + 1, cs)
  | [], [] => some (1, [])
  | [], c :: cs => if c == '\n' then some (1, cs) else none
  | _ :: _, [] => none
  | m :: mark, c :: cs => if m == c then behind? mark cs else none

/-- A line without the tabs in front of it, if they do not belong to the here-document. -/
def strip (m : EndMark) (cs : List Char) : List Char :=
  if m.stripsTabs then cs.dropWhile (· == '\t') else cs

end EndMark

/-- What a piece of a word stands in. -/
inductive Context where
  | bare
  | braced
  /-- Quotes, which may stand in braces. -/
  | quoted (inBraces : Bool)
  /-- Braces between quotes. Other quotes in them only keep a brace from ending the word. -/
  | quotedBraced (keepsBrace : Bool)
  | document
  /-- An integer expression, with the brackets that are open in it. -/
  | sum (depth : Nat)
  deriving DecidableEq, Repr

namespace Context

/-- Whether the pieces are quoted. -/
def isQuoted : Context → Bool
  | bare | braced => false
  | _ => true

/-- Whether there are braces around the word. -/
def isBraced : Context → Bool
  | braced | quoted true | quotedBraced _ => true
  | _ => false

/-- Whether a closing brace ends the word. -/
def endsAtBrace : Context → Bool
  | braced | quotedBraced false => true
  | _ => false

/-- The context of a word in braces. -/
def inBraces (c : Context) : Context := if c.isQuoted then quotedBraced false else braced

/-- Whether a backslash takes the meaning from a character, and is not one itself. -/
def isEscapable (context : Context) (inDocument : Bool) (c : Char) : Bool :=
  !context.isQuoted || c == '\\' || c == '\x60' || c == '$' ||
    (c == '"' && (!inDocument || context.isBraced)) || (c == '\x7d' && context.isBraced)

/-- What is wrong if the text ends here, which can be that of a here-document. -/
def missing? (inDocument : Bool) : Context → Option String
  | bare | document => none
  | braced => some "Missing '\x7d'"
  | quoted _ | quotedBraced _ =>
    some (if inDocument then "Missing '\x7d'" else "Unterminated quoted string")
  | sum _ => some "Missing '))'"

end Context

/-- Spaces and tabs part the words of a line. -/
def isGap (c : Char) : Bool := c == ' ' || c == '\t'

/-- Characters that end a bare word. -/
def endsWord (c : Char) : Bool :=
  isGap c || ['\n', ';', '&', '|', '<', '>', '(', ')'].contains c

/-- Characters that a name starts with. -/
def startsName (c : Char) : Bool := c.isAlpha || c == '_'

/-- Characters of a name. -/
def inName (c : Char) : Bool := c.isAlphanum || c == '_'

/-- Whether a text is a name. -/
def isName (s : String) : Bool := (s.toList.head?.any startsName) && s.toList.all inName

/-- The number that decimal digits stand for. -/
def decimal (cs : List Char) : Nat := cs.foldl (fun n c => 10 * n + (c.toNat - '0'.toNat)) 0

/-- The parameter that a single character names. -/
def specialParameter? : Char → Option Parameter
  | '#' => some .count
  | '?' => some .status
  | '$' => some .process
  | '!' => some .background
  | '-' => some .options
  | '@' => some (.arguments false)
  | '*' => some (.arguments true)
  | _ => none

/-- The fallback with a sign. -/
def fallback? : Char → Option Fallback
  | '-' => some .use
  | '=' => some .assign
  | '?' => some .complain
  | '+' => some .replace
  | _ => none

/-- What is asked for by the start of what stands in braces. A word follows, which ends with the
braces, unless nothing but the value or its length is asked for. -/
inductive Opened where
  | value (p : Parameter)
  | length (p : Parameter)
  /-- The word stands behind the value. -/
  | extended (p : Parameter)
  | fallback (p : Parameter) (kind : Fallback) (evenEmpty : Bool)
  | trimmed (p : Parameter) (atEnd isLongest : Bool)
  | malformed

/-- Drops the continued ends of lines in front of a text, and counts them. -/
def skipJoins : List Char → Nat × List Char
  | '\\' :: '\n' :: cs =>
    let (lines, rest) := skipJoins cs
    (lines + 1, rest)
  | cs => (0, cs)

/-- The characters at the start of a text that something holds of, what follows them, and how
many continued ends of lines stand in between. -/
def spanJoined (holds : Char → Bool) : List Char → List Char × List Char × Nat
  | '\\' :: '\n' :: cs =>
    let (taken, rest, lines) := spanJoined holds cs
    (taken, rest, lines + 1)
  | c :: cs =>
    if holds c then
      let (taken, rest, lines) := spanJoined holds cs
      (c :: taken, rest, lines)
    else ([], c :: cs, 0)
  | [] => ([], [], 0)

namespace Reading

/-- The next character, if the script is not at its end. -/
def takeChar : Reading (Option Char) := do
  let c ← get
  let (lines, rest) := skipJoins c.rest
  set { c with rest := rest.tail, line := c.line + lines }
  return rest.head?

/-- Puts a character back. -/
def returnChar (c : Option Char) : Reading Unit :=
  modify fun cursor => { cursor with rest := c.toList ++ cursor.rest }

/-- The characters that something holds of. -/
def takeChars (holds : Char → Bool) : Reading (List Char) := do
  let c ← get
  let (taken, rest, lines) := spanJoined holds c.rest
  set { c with rest, line := c.line + lines }
  return taken

/-- The parameter with a name or number that starts with a character. -/
def namedParameter (c : Char) : Reading Parameter := do
  if c.isDigit then return .position (decimal (c :: (← takeChars Char.isDigit)))
  else return .variable (String.ofList (c :: (← takeChars inName)))

/-- What is asked for behind a parameter in braces. -/
def openedBy (p : Parameter) : Reading Opened := do
  match ← takeChar with
  | some '\x7d' => return .value p
  | some ':' =>
    match ← takeChar with
    | some '\x7d' => return .extended p
    | c => return ((c.bind fallback?).map (.fallback p · true)).getD .malformed
  | some c =>
    if c == '#' || c == '%' then
      let next ← takeChar
      let isLongest := next = some c
      if !isLongest then returnChar next
      return .trimmed p (c == '%') isLongest
    return ((fallback? c).map (.fallback p · false)).getD .malformed
  | none => return .malformed

/-- What is asked for behind a number sign in braces: the length of a parameter, unless the sign
is the parameter itself. -/
def openedByCount : Reading Opened := do
  let first ← takeChar
  match first with
  | some c =>
    if inName c then
      let p ← namedParameter c
      let next ← takeChar
      if next = some '\x7d' then return .length p
      returnChar next
      return .malformed
    let next ← takeChar
    if c ≠ '\x7d' && next = some '\x7d' then
      match specialParameter? c with
      | some p => return .length p
      | none =>
        returnChar next
        return .malformed
    returnChar next
    returnChar first
    openedBy .count
  | none => return .malformed

/-- What is asked for in braces. Of what makes no sense, a character is passed over. -/
def opened : Reading Opened := do
  match ← takeChar with
  | some '\x7d' =>
    returnChar (some '\x7d')
    return .malformed
  | some '#' => openedByCount
  | some c =>
    if inName c then openedBy (← namedParameter c)
    else
      match specialParameter? c with
      | some p => openedBy p
      | none => return .malformed
  | none => return .malformed

end Reading

/-- The text up to the closing backquote, and the text behind it. Inside, a backslash takes the
meaning from a few characters only. -/
def backquoted (isQuoted : Bool) : List Char → Option (List Char × List Char)
  | [] => none
  | '\x60' :: rest => some ([], rest)
  | '\\' :: '\n' :: rest => backquoted isQuoted rest
  | '\\' :: c :: rest => do
    let (inner, rest) ← backquoted isQuoted rest
    if c == '\\' || c == '\x60' || c == '$' || (isQuoted && c == '"') then return (c :: inner, rest)
    else return ('\\' :: c :: inner, rest)
  | c :: rest => do
    let (inner, rest) ← backquoted isQuoted rest
    return (c :: inner, rest)

section

open Reading

variable (substitution : (toEnd : Bool) → Reading Commands)

mutual

/-- Reads pieces up to what ends their context and adds them to a word, of which the last piece
comes first. In a here-document, every line may be the one that ends it. -/
def pieces (mark : Option EndMark) : (fuel : Nat) → Context → Word → Reading Word
  | 0, _, w => pure w
  | fuel + 1, context, w => do
    match (← get).rest with
    | [] =>
      match context.missing? mark.isSome with
      | some complaint => fail complaint
      | none => return w
    | '\\' :: '\n' :: rest =>
      crossLine rest
      pieces mark fuel context w
    | ['\\'] =>
      advance []
      pieces mark fuel context (w.pushChar '\\' true)
    | '\\' :: c :: rest =>
      advance rest
      let w := if context.isEscapable mark.isSome c then w else w.pushChar '\\' true
      pieces mark fuel context (w.pushChar c true)
    | '$' :: rest =>
      advance rest
      match ← dollar mark fuel context with
      | [] => pieces mark fuel context (w.pushChar '$' context.isQuoted)
      | asked => pieces mark fuel context (asked ++ w)
    | '\x60' :: rest =>
      match backquoted context.isQuoted rest with
      | none => do
        modify fun c => { c with line := c.line + rest.count '\n' }
        fail "EOF in backquote substitution"
      | some (text, behind) =>
        let script ← within text 1 (substitution true)
        let used := rest.take (rest.length - behind.length)
        modify fun c => { c with rest := behind, line := c.line + used.count '\n' }
        pieces mark fuel context (.output script context.isQuoted :: w)
    | c :: rest =>
      if context = .bare && endsWord c then return w
      if context.endsAtBrace && c == '\x7d' then
        advance rest
        return w
      if c == '\'' && !context.isQuoted then
        let inner := rest.takeWhile (· != '\'')
        modify fun c => { c with line := c.line + inner.count '\n' }
        match rest.dropWhile (· != '\'') with
        | [] => fail "Unterminated quoted string"
        | _ :: rest =>
          advance rest
          let w : Word := if inner.isEmpty then .text "" true :: w else w
          pieces mark fuel context (inner.foldl (fun w c => w.pushChar c true) w)
      else if c == '"' then
        match context with
        | .bare | .braced =>
          advance rest
          let inner ← pieces mark fuel (.quoted context.isBraced) []
          match inner with
          | [.value (.arguments false) true] => pieces mark fuel context (inner ++ w)
          | [.text s true] =>
            pieces mark fuel context (s.toList.foldl (fun w c => w.pushChar c true) w)
          | _ => pieces mark fuel context (inner ++ .text "" true :: w)
        | .quoted _ =>
          advance rest
          return w
        | .quotedBraced keepsBrace =>
          advance rest
          pieces mark fuel (.quotedBraced !keepsBrace) w
        | .document | .sum _ =>
          advance rest
          pieces mark fuel context (w.pushChar c true)
      else if c == '\n' then
        crossLine rest
        startLine mark fuel context (w.pushChar c context.isQuoted)
      else
        advance rest
        match context, c, rest with
        | .sum depth, '(', _ => pieces mark fuel (.sum (depth + 1)) (w.pushChar c true)
        | .sum (depth + 1), ')', _ => pieces mark fuel (.sum depth) (w.pushChar c true)
        | .sum 0, ')', ')' :: rest =>
          advance rest
          return w
        | _, _, _ => pieces mark fuel context (w.pushChar c context.isQuoted)

/-- Goes on at the start of a line, unless a here-document ends there. -/
def startLine (mark : Option EndMark) : (fuel : Nat) → Context → Word → Reading Word
  | 0, _, w => pure w
  | fuel + 1, context, w =>
    match mark with
    | none => pieces mark fuel context w
    | some m => do
      let rest := m.strip (← get).rest
      match EndMark.behind? m.text rest with
      | some (lines, behind) =>
        modify fun c => { c with rest := behind, line := c.line + lines }
        match context.missing? mark.isSome with
        | some complaint => fail complaint
        | none => return w
      | none =>
        advance rest
        pieces mark fuel context w

/-- Reads what follows a dollar sign: some pieces, of which the last comes first. A dollar sign
that asks for nothing stands for itself. -/
def dollar (mark : Option EndMark) : (fuel : Nat) → Context → Reading Word
  | 0, _ => return []
  | fuel + 1, context => do
    let isQuoted := context.isQuoted
    match ← takeChar with
    | some '(' =>
      let next ← takeChar
      if next = some '(' then
        let inner ← pieces mark fuel (.sum 0) []
        return [.sum inner.reverse isQuoted]
      returnChar next
      let owed := (← get).owed
      modify fun c => { c with owed := 0 }
      let script ← substitution false
      modify fun c => { c with owed }
      return [.output script isQuoted]
    | some '\x7b' =>
      match ← opened with
      | .value p => return [.value p isQuoted]
      | .length p => return [.length p isQuoted]
      | .extended p =>
        let word ← pieces mark fuel context.inBraces []
        return .cut :: word ++ [.value p isQuoted]
      | .fallback p kind evenEmpty =>
        let word ← pieces mark fuel context.inBraces []
        return [.fallback p kind evenEmpty (Word.kept word.reverse) isQuoted]
      | .trimmed p atEnd isLongest =>
        let word ← pieces mark fuel .braced []
        return [.trimmed p atEnd isLongest (Word.kept word.reverse) isQuoted]
      | .malformed =>
        let _ ← pieces mark fuel context.inBraces []
        return [.malformed]
    | some c =>
      if c.isDigit then return [.value (.position (decimal [c])) isQuoted]
      if startsName c then return [.value (← namedParameter c) isQuoted]
      match specialParameter? c with
      | some p => return [.value p isQuoted]
      | none =>
        returnChar (some c)
        return []
    | none => return []

end

/-- How many steps reading a word may take, three for every character of the script. -/
def wordFuel (c : Cursor) : Nat := 3 * c.size + 4

/-- Reads a bare word. -/
def readWord : Reading Word := do
  return Word.kept (← pieces substitution none (wordFuel (← get)) .bare []).reverse

/-- Drops the spaces, ended lines and comments in front of a token. -/
def skipGaps : List Char → Nat × List Char
  | '\\' :: '\n' :: cs =>
    let (lines, rest) := skipGaps cs
    (lines + 1, rest)
  | '#' :: cs => (0, cs.dropWhile (· != '\n'))
  | c :: cs => if isGap c then skipGaps cs else (0, c :: cs)
  | [] => (0, [])

/-- The sign of a redirection, and what follows it. -/
def redirectionSign? : List Char → Option (RedirectionSign × List Char)
  | '<' :: '<' :: '-' :: rest => some (.document true, rest)
  | '<' :: '<' :: rest => some (.document false, rest)
  | '<' :: '&' :: rest => some (.copy true, rest)
  | '<' :: '>' :: rest => some (.file .both, rest)
  | '<' :: rest => some (.file .input, rest)
  | '>' :: '>' :: rest => some (.file .append, rest)
  | '>' :: '&' :: rest => some (.copy false, rest)
  | '>' :: '|' :: rest => some (.file .clobber, rest)
  | '>' :: rest => some (.file .output, rest)
  | _ => none

/-- The sign that parts commands, and what follows it. -/
def separator? : List Char → Option (String × List Char)
  | '&' :: '&' :: rest => some ("&&", rest)
  | '&' :: rest => some ("&", rest)
  | '|' :: '|' :: rest => some ("||", rest)
  | '|' :: rest => some ("|", rest)
  | ';' :: ';' :: rest => some (";;", rest)
  | ';' :: rest => some (";", rest)
  | '(' :: rest => some ("(", rest)
  | ')' :: rest => some (")", rest)
  | _ => none

/-- The redirection at the start of a text, with its descriptor, and what follows it. -/
def redirection? (cs : List Char) : Option (Token × List Char) :=
  match redirectionSign? cs with
  | some (sign, rest) => some (.redirection sign.descriptor sign, rest)
  | none =>
    match cs with
    | d :: rest =>
      if d.isDigit then
        (redirectionSign? rest).map fun (sign, rest) => (.redirection (decimal [d]) sign, rest)
      else none
    | [] => none

/-- Reads a token. -/
def readToken : Reading Token := do
  let cursor ← get
  match cursor.ahead with
  | some t =>
    set { cursor with ahead := none }
    return t
  | none =>
    let (lines, rest) := skipGaps cursor.rest
    set { cursor with rest, line := cursor.line + lines }
    match rest with
    | [] => return .finish
    | '\n' :: rest =>
      endLine rest
      return .lineEnd
    | _ =>
      match separator? rest, redirection? rest with
      | some (s, rest), _ =>
        advance rest
        return .sign s
      | _, some (t, rest) =>
        advance rest
        return t
      | _, _ => return .word (← readWord substitution)

end

end PocketShell.Machine.Script
