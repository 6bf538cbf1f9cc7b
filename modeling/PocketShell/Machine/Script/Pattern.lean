/-!
# Patterns

Patterns of the shell: `*` stands for any text, `?` for any character and brackets for one of
some characters. A quoted character always stands for itself.
-/

namespace PocketShell.Machine.Script

/-- A character of a pattern and whether it is quoted. -/
abbrev PatternChar := Char × Bool

/-- What stands between the brackets of a pattern. -/
inductive Member where
  | range (low high : Char)
  | named (holds : Char → Bool)

/-- An element of a pattern. -/
inductive Element where
  | one (c : Char)
  | any
  | many
  | bracket (isNegated : Bool) (members : List Member)

/-- A pattern. -/
abbrev Pattern := List Element

namespace Pattern

/-- The classes of characters that have a name. Only ASCII characters belong to one. -/
def classes : List (String × (Char → Bool)) :=
  let isPrintable (c : Char) := ' ' ≤ c && c ≤ '~'
  [("alnum", (·.isAlphanum)), ("alpha", (·.isAlpha)), ("blank", fun c => c == ' ' || c == '\t'),
   ("cntrl", fun c => c < ' ' || c == '\x7f'), ("digit", (·.isDigit)),
   ("graph", fun c => isPrintable c && c != ' '), ("lower", (·.isLower)), ("print", isPrintable),
   ("punct", fun c => isPrintable c && c != ' ' && !c.isAlphanum),
   ("space", fun c => c == ' ' || ('\t' ≤ c && c ≤ '\r')), ("upper", (·.isUpper)),
   ("xdigit", fun c => c.isDigit || ('a' ≤ c && c ≤ 'f') || ('A' ≤ c && c ≤ 'F'))]

/-- The named class that a pattern starts with behind a bracket, and what follows it. -/
def class? : List PatternChar → Option (Member × List PatternChar)
  | (':', false) :: rest =>
    let name := String.ofList ((rest.takeWhile (·.1 != ':')).map (·.1))
    match rest.dropWhile (·.1 != ':'), classes.lookup name with
    | (':', _) :: (']', _) :: rest, some holds => some (.named holds, rest)
    | _, _ => none
  | _ => none

/-- The members up to the closing bracket, which is not taken for one if it is the first
character. -/
def members : (fuel : Nat) → (isFirst : Bool) → List PatternChar →
    Option (List Member × List PatternChar)
  | 0, _, _ => none
  | _, _, [] => none
  | fuel + 1, isFirst, (c, isQuoted) :: rest =>
    if c == ']' && !isQuoted && !isFirst then some ([], rest)
    else
      match if c == '[' && !isQuoted then class? rest else none with
      | some (m, rest) => (members fuel false rest).map fun (ms, rest) => (m :: ms, rest)
      | none =>
        match rest with
        | ('-', false) :: (high, isQuoted) :: behind =>
          if high == ']' && !isQuoted then
            (members fuel false rest).map fun (ms, rest) => (.range c c :: ms, rest)
          else (members fuel false behind).map fun (ms, rest) => (.range c high :: ms, rest)
        | _ => (members fuel false rest).map fun (ms, rest) => (.range c c :: ms, rest)

/-- Reads a pattern. A bracket that is not closed stands for itself. -/
def read : (fuel : Nat) → List PatternChar → Pattern
  | 0, _ => []
  | _, [] => []
  | fuel + 1, (c, true) :: rest => .one c :: read fuel rest
  | fuel + 1, ('*', false) :: rest => .many :: read fuel rest
  | fuel + 1, ('?', false) :: rest => .any :: read fuel rest
  | fuel + 1, ('[', false) :: rest =>
    let (isNegated, inside) :=
      match rest with
      | ('!', false) :: inside => (true, inside)
      | _ => (false, rest)
    match members (inside.length + 1) true inside with
    | some (ms, rest) => .bracket isNegated ms :: read fuel rest
    | none => .one '[' :: read fuel rest
  | fuel + 1, (c, false) :: rest => .one c :: read fuel rest

/-- The pattern that characters spell. -/
def ofChars (cs : List PatternChar) : Pattern := read (cs.length + 1) cs

/-- Whether a pattern stands for more than one text. -/
def isOpen (p : Pattern) : Bool := p.any fun | .one _ => false | _ => true

/-- Whether a character is among the members of a bracket. -/
def Member.holds (c : Char) : Member → Bool
  | .range low high => low ≤ c && c ≤ high
  | .named holds => holds c

/-- Whether a test holds of what is left of a text from some place on. -/
def anySuffix (holds : List Char → Bool) : List Char → Bool
  | [] => holds []
  | c :: cs => holds (c :: cs) || anySuffix holds cs

/-- Whether a pattern stands for a text. -/
def doesMatch : Pattern → List Char → Bool
  | [], cs => cs.isEmpty
  | .many :: p, cs => anySuffix (doesMatch p) cs
  | .one d :: p, c :: cs => c = d && doesMatch p cs
  | .any :: p, _ :: cs => doesMatch p cs
  | .bracket isNegated ms :: p, c :: cs =>
    (ms.any fun m => Member.holds c m) != isNegated && doesMatch p cs
  | _ :: _, [] => false

/-- A text up to the first zero character. Zero characters part texts that are looked through
together. -/
def firstText (cs : List Char) : List Char := cs.takeWhile (· != '\x00')

/-- A text without the shortest or longest part at its start that a pattern stands for. Of
several texts the first is compared with the pattern; the longest part can be all of them. -/
def trimStart (p : Pattern) (isLongest : Bool) (cs : List Char) : List Char :=
  let cuts :=
    if isLongest then (List.range (cs.length + 1)).reverse
    else List.range ((firstText cs).length + 1)
  match cuts.find? fun k => doesMatch p (firstText (cs.take k)) with
  | some k => cs.drop k
  | none => cs

/-- A text without the shortest or longest part at its end that a pattern stands for. Of several
texts the last that has such a part is cut, and those behind it are lost; the longest part is
looked for in the first. -/
def trimEnd (p : Pattern) (isLongest : Bool) (cs : List Char) : List Char :=
  let cuts :=
    if isLongest then List.range ((firstText cs).length + 1)
    else (List.range (cs.length + 1)).reverse
  match cuts.find? fun k => doesMatch p (firstText (cs.drop k)) with
  | some k => cs.take k
  | none => cs

end Pattern

end PocketShell.Machine.Script
