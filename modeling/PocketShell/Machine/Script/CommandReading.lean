import PocketShell.Machine.Script.WordReading

/-!
# Reading commands

Commands are read by recursive descent. A script is not read as a whole: `nextLine` reads the
commands that end with a line, so that they can run before the next are read.
-/

namespace PocketShell.Machine.Script

open Reading

/-- Words that have a meaning of their own where a command can start. -/
def keywords : List String :=
  ["!", "case", "do", "done", "elif", "else", "esac", "fi", "for", "if", "in", "then", "until",
   "while", "\x7b", "\x7d"]

/-- Tokens that end a list of commands. -/
def endsList : Token → Bool
  | .keyword s => ["do", "done", "elif", "else", "esac", "fi", "then", "\x7d"].contains s
  | .sign s => s == ")" || s == ";;"
  | _ => false

/-- Commands that have a meaning for the shell itself, and of which no function can have the
name. -/
def specialCommands : List String :=
  [".", ":", "break", "continue", "eval", "exec", "exit", "export", "local", "readonly",
   "return", "set", "shift", "times", "trap", "unset"]

/-- The name and the value of a word that sets a variable. -/
def setting? : Word → Option (String × Word)
  | .text s false :: rest =>
    let name := s.toList.takeWhile inName
    match s.toList.dropWhile inName with
    | '=' :: value =>
      if isName (String.ofList name) then
        some (String.ofList name,
          if value.isEmpty then rest else .text (String.ofList value) false :: rest)
      else none
    | _ => none
  | _ => none

/-- The word that marks the end of a here-document, whether anything in it is quoted, and what
follows it, if its quotes are closed. Dollar signs and backquotes are like any other character in
it. -/
def endMark? (quote : Option Char) : List Char → Option (List Char × Bool × List Char)
  | [] => if quote.isNone then some ([], false, []) else none
  | '\\' :: c :: rest =>
    if quote = some '\'' then do
      let (mark, isQuoted, behind) ← endMark? quote (c :: rest)
      return ('\\' :: mark, isQuoted, behind)
    else if c == '\n' then endMark? quote rest
    else do
      let (mark, _, behind) ← endMark? quote rest
      let isKept := quote = some '"' && !(['\\', '$', '\x60', '"'].contains c)
      return ((if isKept then ['\\'] else []) ++ c :: mark, true, behind)
  | c :: rest =>
    if quote = some c then do
      let (mark, _, behind) ← endMark? none rest
      return (mark, true, behind)
    else if quote.isNone && (c == '\'' || c == '"') then do
      let (mark, _, behind) ← endMark? (some c) rest
      return (mark, true, behind)
    else if quote.isNone && endsWord c then some ([], false, c :: rest)
    else do
      let (mark, isQuoted, behind) ← endMark? quote rest
      return (c :: mark, isQuoted, behind)

/-- What follows a mark at the start of a text, if it is a line of its own. -/
def behindMark? : (mark : List Char) → List Char → Option (List Char)
  | [], [] => some []
  | [], c :: cs => if c == '\n' then some cs else none
  | _ :: _, [] => none
  | m :: mark, c :: cs => if m == c then behindMark? mark cs else none

/-- The text of a here-document that is taken as it stands, what follows it, and how many lines
that takes. -/
def plainDocument (mark : EndMark) : (fuel : Nat) → List Char → List Char × List Char × Nat
  | 0, rest => ([], rest, 0)
  | fuel + 1, rest =>
    let rest := mark.strip rest
    match behindMark? mark.text rest with
    | some behind => ([], behind, 1)
    | none =>
      let line := rest.takeWhile (· != '\n')
      match rest.dropWhile (· != '\n') with
      | [] => (line, [], 0)
      | _ :: behind =>
        let (text, behind, lines) := plainDocument mark fuel behind
        (line ++ '\n' :: text, behind, lines + 1)

/-- The alias that a word stands for where aliases are known. -/
def Cursor.alias? (c : Cursor) (name : String) : Option String :=
  if c.expanding.any (·.name = name) then none else c.aliases.lookup name

section

variable (substitution : (toEnd : Bool) → Reading Commands)

/-- Reads a token. Line ends in front of it are skipped on request, and words that are keywords
or aliases are taken for that on request. Behind the text of some aliases, aliases are known in
any case. -/
def next (skipsLines knowsKeywords knowsAliases : Bool) : Reading Token := do
  let rec seek (knowsAliases : Bool) : Nat → Reading Token
    | 0 => return .finish
    | fuel + 1 => do
      let before ← get
      let isFresh := before.ahead.isNone
      let start := (skipGaps before.rest).2
      let isBehind (e : Expanding) : Bool :=
        e.endsInGap && e.behind < before.rest.length && start.length ≤ e.behind
      let knowsAliases := knowsAliases || before.expanding.any isBehind
      match ← readToken substitution with
      | .lineEnd => if skipsLines then seek knowsAliases fuel else return .lineEnd
      | .word w =>
        match w.plain? with
        | none => return .word w
        | some s =>
          if knowsKeywords && keywords.contains s then return .keyword s
          if !(isFresh && knowsAliases) then return .word w
          let c ← get
          let left := c.rest.length
          let expanding := c.expanding.filter (·.behind ≤ left)
          match { c with expanding }.alias? s with
          | none => return .word w
          | some text =>
            let cs := text.toList
            let entry : Expanding := ⟨s, left, cs.getLast?.any isGap⟩
            set { c with
              rest := cs ++ c.rest, size := c.size + cs.length, expanding := entry :: expanding }
            seek knowsAliases fuel
      | t => return t
  let c ← get
  seek knowsAliases (c.size + c.aliases.length + 2)

/-- Reads a token that has to be a certain keyword. What was read as a plain word before is not
one. -/
def expectKeyword (s : String) (isFresh : Bool) : Reading Unit := do
  match ← next substitution isFresh isFresh isFresh with
  | .keyword k => if k ≠ s then unexpected (.keyword k) (some ("\"" ++ s ++ "\""))
  | t => unexpected t (some ("\"" ++ s ++ "\""))

/-- What follows the line that is being read. Ends of lines inside words are no ends of it. -/
def behindLine : (fuel : Nat) → Reading (Option (List Char))
  | 0 => return none
  | fuel + 1 => do
    match ← readToken substitution with
    | .lineEnd => return some (← get).rest
    | .finish => return none
    | .redirection _ (.document _) =>
      let (_, rest) := skipGaps (← get).rest
      match endMark? none rest with
      | some (_, _, behind) =>
        advance behind
        behindLine fuel
      | none => return none
    | _ => behindLine fuel

/-- Reads a here-document, of which the end mark has been read, and takes it out of the
script. -/
def document (mark : EndMark) (isQuoted : Bool) : Reading Word := do
  let cursor ← get
  match (behindLine substitution (cursor.size + 2)).run cursor with
  | .ok (some behind, _) =>
    let between := cursor.rest.take (cursor.rest.length - behind.length)
    let line := cursor.line + cursor.owed + between.count '\n'
    let (w, left, lines) ←
      if isQuoted then
        let (text, left, lines) := plainDocument mark (cursor.size + 1) behind
        pure ([.text (String.ofList text) true], left, lines)
      else do
        set { cursor with rest := behind, line, owed := 0, ahead := none }
        let fuel := wordFuel cursor
        let w ← startLine substitution (some mark) fuel .document []
        let after ← get
        pure (w.reverse, after.rest, after.line - line)
    let removed := behind.length - left.length
    let expanding := cursor.expanding.map fun e => { e with behind := e.behind - removed }
    set { cursor with rest := between ++ left, owed := cursor.owed + lines, expanding }
    return w
  | _ => return []

/-- Reads the word behind the sign of a redirection. -/
def redirectionTo (descriptor : Nat) (sign : RedirectionSign) : Reading Redirection := do
  let (_, rest) := skipGaps (← get).rest
  match sign with
  | .document stripsTabs =>
    if rest.head?.all endsWord then unexpected (← next substitution false false false) none
    match endMark? none rest with
    | none =>
      modify fun c => { c with line := c.line + rest.count '\n' }
      fail "Unterminated quoted string"
    | some (mark, isQuoted, behind) =>
      let lines := (rest.take (rest.length - behind.length)).count '\n'
      modify fun c => { c with rest := behind, line := c.line + lines }
      return .document descriptor (← document substitution ⟨mark, stripsTabs⟩ isQuoted)
  | sign =>
    match ← next substitution false false false with
    | .word w =>
      match sign with
      | .file how => return .file descriptor how w
      | _ => return .copy descriptor w
    | t => unexpected t none

/-- Reads the redirections behind a compound command. Only in front of the first, a word is seen
for a keyword or an alias. -/
def redirectionsBehind (isFirst : Bool) : (fuel : Nat) → Reading (List Redirection)
  | 0 => return []
  | fuel + 1 => do
    match ← next substitution false isFirst isFirst with
    | .redirection d sign =>
      let r ← redirectionTo substitution d sign
      return r :: (← redirectionsBehind false fuel)
    | t =>
      putBack t
      return []

/-- Reads words up to the end of a line or a semicolon. -/
def wordsToEnd : (fuel : Nat) → Reading (List Word)
  | 0 => return []
  | fuel + 1 => do
    match ← next substitution false false false with
    | .word w => return w :: (← wordsToEnd fuel)
    | .lineEnd | .sign ";" => return []
    | t => unexpected t none

/-- Reads the patterns of a branch, up to the closing bracket. The first has been read. -/
def patternsFrom (first : Token) : (fuel : Nat) → Reading (List Word)
  | 0 => return []
  | fuel + 1 => do
    let pattern : Word ←
      match first with
      | .word w => pure w
      | .keyword s => pure [.text s false]
      | _ => pure []
    match ← next substitution false false false with
    | .sign "|" => return pattern :: (← patternsFrom (← next substitution false false false) fuel)
    | .sign ")" => return [pattern]
    | t => unexpected t (some "\")\"")

end

/-- A simple command as far as it has been read, the last parts first. -/
structure Draft where
  settings : List (String × Word)
  words : List Word
  redirections : List Redirection

/-- The command that a draft has become. -/
def Draft.command (d : Draft) (line : Nat) : Command :=
  .simple line d.settings.reverse d.words.reverse d.redirections.reverse

/-- Commands that redirections apply to together. Redirections of a group that holds nothing but
a subshell take the place of the subshell's own. -/
def grouped (line : Nat) (body : Commands) (redirections : List Redirection) : Command :=
  match body, redirections with
  | [c], [] => c
  | [.subshell start inner _], redirections => .subshell start inner redirections
  | body, redirections => .group line body redirections

mutual

/-- Reads commands inside a word, up to a closing bracket or to the end of the text. -/
def substitution : (fuel : Nat) → (toEnd : Bool) → Reading Commands
  | 0, _ => return []
  | fuel + 1, toEnd => do
    let outer := (← get).ahead
    modify fun c => { c with ahead := none }
    let body ← commands fuel false true []
    match ← next (substitution fuel) false false false with
    | .sign ")" => if toEnd then unexpected (.sign ")") none
    | .finish => if !toEnd then unexpected .finish (some "\")\"")
    | t => if toEnd then unexpected t none else unexpected t (some "\")\"")
    modify fun c => { c with ahead := outer }
    return body

/-- Reads commands and adds them to a list, of which the last comes first: those of a line, or
those up to a token that ends a list. -/
def commands : (fuel : Nat) → (isLine mayEnd : Bool) → Commands → Reading Commands
  | 0, _, _, done => return done.reverse
  | fuel + 1, isLine, mayEnd, done => do
    let sub := substitution fuel
    let t ← next sub (!isLine) true true
    match t with
    | .lineEnd => return done.reverse
    | .finish =>
      putBack .finish
      return done.reverse
    | _ =>
      putBack t
      if !isLine && mayEnd && endsList t then return done.reverse
      let c ← joined fuel none
      match ← next sub false false false with
      | .sign "&" => commands fuel isLine true (.background c :: done)
      | .sign ";" => commands fuel isLine true (c :: done)
      | .lineEnd =>
        putBack .lineEnd
        commands fuel isLine true (c :: done)
      | .finish =>
        putBack .finish
        return (c :: done).reverse
      | t =>
        if isLine then unexpected t none
        putBack t
        return (c :: done).reverse

/-- Reads pipelines that `&&` and `||` join, from the left. -/
def joined : (fuel : Nat) → Option Command → Reading Command
  | 0, _ => return .group 0 [] []
  | fuel + 1, none => do joined fuel (some (← pipeline fuel false))
  | fuel + 1, some first => do
    match ← next (substitution fuel) false false false with
    | .sign "&&" => joined fuel (some (.both first (← pipeline fuel true)))
    | .sign "||" => joined fuel (some (.either first (← pipeline fuel true)))
    | t =>
      putBack t
      return first

/-- Reads a pipeline. -/
def pipeline : (fuel : Nat) → (skipsLines : Bool) → Reading Command
  | 0, _ => return .group 0 [] []
  | fuel + 1, skipsLines => do
    let sub := substitution fuel
    match ← next sub skipsLines true true with
    | .keyword "!" => return .negation (← piped fuel [← command fuel false])
    | t =>
      putBack t
      piped fuel [← command fuel false]

/-- Reads the commands behind the first of a pipeline, of which the last comes first. -/
def piped : (fuel : Nat) → Commands → Reading Command
  | 0, _ => return .group 0 [] []
  | fuel + 1, done => do
    match ← next (substitution fuel) false false false with
    | .sign "|" => piped fuel ((← command fuel true) :: done)
    | t =>
      putBack t
      match done with
      | [c] => return c
      | _ => return .pipeline done.reverse

/-- Reads a command. -/
def command : (fuel : Nat) → (skipsLines : Bool) → Reading Command
  | 0, _ => return .group 0 [] []
  | fuel + 1, skipsLines => do
    let sub := substitution fuel
    let t ← next sub skipsLines true true
    let line := (← get).line
    let withRedirections (c : Command) : Reading Command := do
      return grouped line [c] (← redirectionsBehind sub true (wordFuel (← get)))
    match t with
    | .keyword "if" =>
      let c ← choice fuel
      withRedirections c
    | .keyword "while" => withRedirections (← loop fuel false)
    | .keyword "until" => withRedirections (← loop fuel true)
    | .keyword "for" => withRedirections (← each fuel line)
    | .keyword "case" =>
      match ← next sub false false false with
      | .word w =>
        expectKeyword sub "in" true
        withRedirections (.select line w (← branches fuel))
      | t => unexpected t (some "word")
    | .sign "(" =>
      let body ← commands fuel false false []
      match ← next sub false false false with
      | .sign ")" => return .subshell line body (← redirectionsBehind sub true (wordFuel (← get)))
      | t => unexpected t (some "\")\"")
    | .keyword "\x7b" =>
      let body ← commands fuel false false []
      expectKeyword sub "\x7d" false
      return grouped line body (← redirectionsBehind sub true (wordFuel (← get)))
    | .word _ | .redirection _ _ =>
      putBack t
      simple fuel line ⟨[], [], []⟩
    | t => unexpected t none

/-- Reads a test and its branches, behind `if` or `elif`. -/
def choice : (fuel : Nat) → Reading Command
  | 0 => return .group 0 [] []
  | fuel + 1 => do
    let sub := substitution fuel
    let test ← commands fuel false false []
    expectKeyword sub "then" false
    let yes ← commands fuel false false []
    match ← next sub false false false with
    | .keyword "elif" => return .choice test yes [← choice fuel]
    | .keyword "else" =>
      let no ← commands fuel false false []
      expectKeyword sub "fi" false
      return .choice test yes no
    | t =>
      putBack t
      expectKeyword sub "fi" false
      return .choice test yes []

/-- Reads a loop with a test. -/
def loop : (fuel : Nat) → (isUntil : Bool) → Reading Command
  | 0, _ => return .group 0 [] []
  | fuel + 1, isUntil => do
    let test ← commands fuel false false []
    expectKeyword (substitution fuel) "do" false
    return .loop isUntil test (← body fuel)

/-- Reads the body of a loop, behind `do`. -/
def body : (fuel : Nat) → Reading Commands
  | 0 => return []
  | fuel + 1 => do
    let body ← commands fuel false false []
    expectKeyword (substitution fuel) "done" false
    return body

/-- Reads a loop over words. -/
def each : (fuel line : Nat) → Reading Command
  | 0, _ => return .group 0 [] []
  | fuel + 1, line => do
    let sub := substitution fuel
    match ← next sub false false false with
    | .word w =>
      let some name := w.plain? | fail "Bad for loop variable"
      if !isName name then fail "Bad for loop variable"
      let words ← do
        match ← next sub true true true with
        | .keyword "in" => wordsToEnd sub (wordFuel (← get))
        | t =>
          match t with
          | .sign ";" => pure ()
          | t => putBack t
          pure [[.value (.arguments false) true]]
      expectKeyword sub "do" true
      return .each line name words (← body fuel)
    | _ => fail "Bad for loop variable"

/-- Reads the branches of a selection. -/
def branches : (fuel : Nat) → Reading (List (List Word × Commands))
  | 0 => return []
  | fuel + 1 => do
    let sub := substitution fuel
    match ← next sub true true false with
    | .keyword "esac" => return []
    | t =>
      let first ← do
        match t with
        | .sign "(" => next sub false false false
        | t => pure t
      let patterns ← patternsFrom sub first (wordFuel (← get))
      let body ← commands fuel false true []
      match ← next sub true true true with
      | .keyword "esac" => return [(patterns, body)]
      | .sign ";;" => return (patterns, body) :: (← branches fuel)
      | t => unexpected t (some "\";;\"")

/-- Reads a simple command or the definition of a function, of which a part has been read. -/
def simple : (fuel line : Nat) → Draft → Reading Command
  | 0, line, d => return d.command line
  | fuel + 1, line, d => do
    let sub := substitution fuel
    match ← next sub false false d.words.isEmpty with
    | .word w =>
      match d.words, setting? w with
      | [], some s => simple fuel line { d with settings := s :: d.settings }
      | _, _ => simple fuel line { d with words := w :: d.words }
    | .redirection n sign =>
      let r ← redirectionTo sub n sign
      simple fuel line { d with redirections := r :: d.redirections }
    | .sign "(" =>
      match d with
      | ⟨[], [w], []⟩ =>
        match ← next sub false false false with
        | .sign ")" =>
          let name := (w.plain?).getD ""
          if !isName name || specialCommands.contains name then fail "Bad function name"
          let start := (← get).line
          return .definition start name (← command fuel true)
        | t => unexpected t (some "\")\"")
      | _ =>
        putBack (.sign "(")
        return d.command line
    | t =>
      putBack t
      return d.command line

end

/-- How many steps reading a script may take: a few for every character of it, and as many for
every character of the aliases that may stand in it. -/
def readingFuel (c : Cursor) : Nat :=
  let longest := (c.aliases.map (·.2.length)).foldl max 0
  12 * (c.size + 4) * (longest + 1)

/-- Reads the commands of the next line, if the script is not at its end. -/
def nextLine (c : Cursor) : Except Misreading (Option (Commands × Cursor)) := do
  let fuel := readingFuel c
  let (t, c) ← (next (substitution fuel) false true true).run c
  match t with
  | .finish => return none
  | t => return some (← (commands fuel true false []).run { c with ahead := some t })

end PocketShell.Machine.Script
