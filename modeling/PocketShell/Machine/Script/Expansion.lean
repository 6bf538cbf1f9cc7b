import PocketShell.Machine.Script.Field
import PocketShell.Machine.Script.Process
import PocketShell.Machine.Script.Sum

/-!
# Expansion

Words are expanded in two ways: into fields, as the words of a command are, or into one text, as
the values of variables are.

What commands inside words write is a parameter, `outputOf`, because expanding words is part of
running commands.
-/

namespace PocketShell.Machine.Script

open Act

/-- What a parameter stands for: nothing, a text, or all arguments. -/
inductive ParameterValue where
  | unset
  | text (s : String)
  | all (isJoined : Bool) (arguments : List String)

/-- The value of a parameter. -/
def Process.valueOf (p : Process) : Parameter → ParameterValue
  | .variable name => ((p.look name).map ParameterValue.text).getD .unset
  | .position 0 => .text p.name
  | .position (n + 1) => (p.arguments[n]?.map ParameterValue.text).getD .unset
  | .arguments isJoined => .all isJoined p.arguments
  | .count => .text (toString p.arguments.length)
  | .status => .text (toString p.status)
  | .process => .text (toString p.shell)
  | .background => (p.background.map fun n => ParameterValue.text (toString n)).getD .unset
  | .options => .text (String.ofList ((optionNames.map (·.1)).reverse.filter fun c => c.isAlpha && p.has c))

/-- The name of a parameter in a complaint. -/
def parameterName : Parameter → String
  | .variable name => name
  | .position n => toString n
  | .arguments isJoined => if isJoined then "*" else "@"
  | .count => "#"
  | .status => "?"
  | .process => "$"
  | .background => "!"
  | .options => "-"

/-- All arguments as one text, with the first of the separators between them. -/
def Process.joined (p : Process) (arguments : List String) : String :=
  (String.ofList (p.separators.take 1)).intercalate arguments

namespace ParameterValue

/-- The text of a value. -/
def asText (p : Process) : ParameterValue → String
  | unset => ""
  | text s => s
  | all _ arguments => p.joined arguments

/-- Whether there is a value. -/
def isSet : ParameterValue → Bool
  | unset => false
  | _ => true

/-- Whether a value is several fields: the arguments, where fields are asked for and nothing
joins them. -/
def isApart (asFields isQuoted : Bool) : ParameterValue → Bool
  | all isJoined _ => asFields && !(isJoined && isQuoted)
  | _ => false

/-- The glyphs of a value. -/
def glyphs (p : Process) (asFields isQuoted : Bool) (v : ParameterValue) : List Glyph :=
  match v with
  | all _ arguments =>
    if v.isApart asFields isQuoted then
      let gs := ((arguments.map (Glyph.ofText isQuoted true)).intersperse [.cut isQuoted]).flatten
      if isQuoted && !arguments.isEmpty then gs ++ [.hold] else gs
    else Glyph.ofText isQuoted asFields (p.joined arguments)
  | v => Glyph.ofText isQuoted asFields (v.asText p)

/-- A value with its text changed. In the text of several fields, zero characters part them. -/
def mapText (p : Process) (asFields isQuoted : Bool) (f : List Char → List Char)
    (v : ParameterValue) : ParameterValue :=
  match v with
  | all isJoined arguments =>
    if v.isApart asFields isQuoted && !arguments.isEmpty then
      let changed := f ("\x00".intercalate arguments).toList
      .all isJoined ((changed.splitOn '\x00').map String.ofList)
    else .text (String.ofList (f (v.asText p).toList))
  | v => .text (String.ofList (f (v.asText p).toList))

end ParameterValue

/-- Lets unquoted glyphs be split, as those of a word that stands in for a parameter are. -/
def allowSplit : Glyph → Glyph
  | .char c false _ => .char c false true
  | g => g

/-- Breaks the script off because a parameter has no value. -/
def failUnset (p : Parameter) (message : String) : Act α :=
  fail (parameterName p ++ ": " ++ message)

/-- Refuses a parameter without a value if the options ask for that. -/
def checkSet (p : Parameter) (v : ParameterValue) : Act Unit := do
  if (← process).has 'u' && !v.isSet then failUnset p "parameter not set"

/-- The value of an integer expression. Variables that it sets are set. -/
def evaluateSum (text : String) : Act Int := do
  let complain {α : Type} (reason : String) : Act α :=
    fail ("arithmetic expression: " ++ reason ++ ": \"" ++ text ++ "\"")
  match (Sum.ofText text).eval (← process).look [] with
  | .error (.malformed reason) => complain reason
  | .error (.badNumber s) => fail ("Illegal number: " ++ s)
  | .ok (n, settings) =>
    settings.reverse.forM fun (name, value) => set name (toString value)
    return n

section

variable (outputOf : Commands → Act String)

mutual

/-- The glyphs of a piece. -/
def pieceGlyphs (asFields : Bool) : Piece → Act (List Glyph)
  | .text s isQuoted =>
    return if isQuoted && s.isEmpty then [.hold] else Glyph.ofText isQuoted false s
  | .value p isQuoted => do
    let v := (← process).valueOf p
    checkSet p v
    return v.glyphs (← process) asFields isQuoted
  | .length p isQuoted => do
    let v := (← process).valueOf p
    checkSet p v
    return Glyph.ofText isQuoted asFields (toString (v.asText (← process)).length)
  | .fallback p kind evenEmpty word isQuoted => do
    let v := (← process).valueOf p
    let text := v.asText (← process)
    let isPresent := v.isSet && !(evenEmpty && text.isEmpty)
    let gs ←
      match kind with
      | .use =>
        if isPresent then pure (v.glyphs (← process) asFields isQuoted)
        else wordGlyphs asFields word
      | .replace => if isPresent then wordGlyphs asFields word else pure []
      | .assign =>
        if isPresent then pure (v.glyphs (← process) asFields isQuoted)
        else do
          let value := Glyph.text (← wordGlyphs false word)
          match p with
          | .variable name => set name value
          | p => failUnset p "bad variable name"
          pure (Glyph.ofText isQuoted asFields value)
      | .complain =>
        if isPresent then pure (v.glyphs (← process) asFields isQuoted)
        else do
          let message := Glyph.text (← wordGlyphs false word)
          let usual := "parameter not set" ++ if evenEmpty then " or null" else ""
          failUnset p (if word.isEmpty then usual else message)
    return if isQuoted || !asFields then gs else gs.map allowSplit
  | .trimmed p atEnd isLongest pattern isQuoted => do
    let v := (← process).valueOf p
    checkSet p v
    if !v.isSet then return []
    let pattern := Pattern.ofChars (Glyph.patternChars (← wordGlyphs false pattern))
    let trim (cs : List Char) : List Char :=
      if atEnd then Pattern.trimEnd pattern isLongest cs else Pattern.trimStart pattern isLongest cs
    let p ← process
    return (v.mapText p asFields isQuoted trim).glyphs p asFields isQuoted
  | .malformed => fail "Bad substitution"
  | .cut => return []
  | .output script isQuoted => do
    return Glyph.ofText isQuoted asFields (← outputOf script)
  | .sum expression isQuoted => do
    let text := Glyph.text (← wordGlyphs false expression)
    return Glyph.ofText isQuoted asFields (toString (← evaluateSum text))

/-- The glyphs of a word. -/
def wordGlyphs (asFields : Bool) : List Piece → Act (List Glyph)
  | [] => return []
  | piece :: rest => do
    let gs ← pieceGlyphs asFields piece
    return gs ++ (← wordGlyphs asFields rest)

end

/-- The home directory of a user, or of the one who runs the script. -/
def homeOf (own : Option String) (user : String) : Option String :=
  if user.isEmpty then own else if user = "root" then some "/root" else none

/-- A text with a home directory in place of the tilde and the name of a user in front of it.
The name has to end in the text, or with it if nothing follows. -/
def homeAtStart (own : Option String) (isFollowed : Bool) (s : List Char) : List Char :=
  match s with
  | '~' :: rest =>
    let user := rest.takeWhile (· != '/')
    let behind := rest.dropWhile (· != '/')
    match homeOf own (String.ofList user) with
    | some home => if behind.isEmpty && isFollowed then s else home.toList ++ behind
    | none => s
  | _ => s

/-- A word with a home directory in place of a tilde at its start or, in a value, behind a
colon. -/
def withHome (own : Option String) (isValue : Bool) : Word → Word
  | .text s false :: rest =>
    let parts := if isValue then s.toList.splitOn ':' else [s.toList]
    let changed := parts.zipIdx.map fun (part, n) =>
      homeAtStart own (n + 1 = parts.length && !rest.isEmpty) part
    .text (String.ofList ([':'].intercalate changed)) false :: rest
  | w => w

/-- The text of a word that is not split. -/
def wordText (isValue : Bool) (w : Word) : Act String := do
  let home := (← process).look "HOME"
  return Glyph.text (← wordGlyphs outputOf false (withHome home isValue w))

/-- The pattern that a word spells. -/
def wordPattern (w : Word) : Act Pattern := do
  return Pattern.ofChars (Glyph.patternChars (← wordGlyphs outputOf false w))

/-- The fields of a word. -/
def wordFields (w : Word) : Act (List String) := do
  let home := (← process).look "HOME"
  let gs ← wordGlyphs outputOf true (withHome home false w)
  let p ← process
  let fields := Glyph.fields p.separators (gs.length + 1) gs
  if p.has 'f' then return fields.map Glyph.text
  return fields.flatMap (pathsOf (← system).files (← here))

/-- The fields of words. -/
def expandWords (words : List Word) : Act (List String) := do
  return (← words.mapM (wordFields outputOf)).flatten

end

end PocketShell.Machine.Script
