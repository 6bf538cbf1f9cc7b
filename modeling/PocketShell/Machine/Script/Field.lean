import PocketShell.Machine.Access
import PocketShell.Machine.Script.ByteText
import PocketShell.Machine.Script.Pattern

/-!
# Fields

What the pieces of words stand for is put together from glyphs, which remember where they come
from. Only what came out of an unquoted expansion is split into fields, and only unquoted
characters are looked at when a field is taken for a pattern of paths.
-/

namespace PocketShell.Machine.Script

/-- A character with its origin, or a mark between characters. -/
inductive Glyph where
  | char (c : Char) (isQuoted canSplit : Bool)
  /-- The end of an argument that stays a field of its own, which an unquoted end does only if
  there is something in front of it. -/
  | cut (isQuoted : Bool)
  /-- A place where a quotation stands, even an empty one. -/
  | hold
  deriving DecidableEq, Repr

namespace Glyph

/-- The glyphs of a text. -/
def ofText (isQuoted canSplit : Bool) (s : String) : List Glyph :=
  s.toList.map fun c => .char c isQuoted (canSplit && !isQuoted)

/-- The text of glyphs. -/
def text (gs : List Glyph) : String :=
  String.ofList (gs.filterMap fun | .char c _ _ => some c | _ => none)

/-- The characters of glyphs as those of a pattern. -/
def patternChars (gs : List Glyph) : List PatternChar :=
  gs.filterMap fun | .char c isQuoted _ => some (c, isQuoted) | _ => none

/-- Whether a character is a space by default. -/
def isSpace (c : Char) : Bool := c == ' ' || c == '\t' || c == '\n'

/-- Whether a glyph parts fields and can stand there several times without parting more. -/
def isSpacing (separators : List Char) : Glyph → Bool
  | char c _ canSplit => canSplit && isSpace c && separators.contains c
  | cut isQuoted => !isQuoted
  | hold => false

/-- Whether a glyph parts fields each time that it stands there. -/
def isMark (separators : List Char) : Glyph → Bool
  | char c _ canSplit => canSplit && !isSpace c && separators.contains c
  | _ => false

/-- Whether a glyph parts fields. -/
def parts (separators : List Char) (g : Glyph) : Bool :=
  g.isSpacing separators || g.isMark separators || g = .cut true

/-- Drops the spacing in front. -/
def withoutSpacing (separators : List Char) (gs : List Glyph) : List Glyph :=
  gs.dropWhile (isSpacing separators)

/-- The first field and what is left behind what parts it from the rest. A mark takes the
spacing around it along. -/
def firstField? (separators : List Char) (gs : List Glyph) : Option (List Glyph × List Glyph) :=
  match withoutSpacing separators gs with
  | [] => none
  | gs =>
    let field := gs.takeWhile fun g => !g.parts separators
    match gs.dropWhile fun g => !g.parts separators with
    | [] => some (field, [])
    | g :: rest =>
      if g.isMark separators then some (field, withoutSpacing separators rest)
      else if g.isSpacing separators then
        match withoutSpacing separators rest with
        | m :: behind =>
          if m.isMark separators then some (field, withoutSpacing separators behind)
          else some (field, m :: behind)
        | [] => some (field, [])
      else some (field, rest)

/-- The fields of glyphs. -/
def fields (separators : List Char) : (fuel : Nat) → List Glyph → List (List Glyph)
  | 0, _ => []
  | fuel + 1, gs =>
    match firstField? separators gs with
    | none => []
    | some (field, rest) => field :: fields separators fuel rest

/-- The first fields of glyphs, as many as asked for. The last has all that is left, without
the spacing at its end, and without the mark behind it if it is a single field. -/
def fieldsUpTo (separators : List Char) : (count : Nat) → List Glyph → List (List Glyph)
  | 0, _ => []
  | 1, gs =>
    let rest := withoutSpacing separators gs
    match fields separators 2 rest with
    | [field] => [field]
    | _ => [(rest.reverse.dropWhile (isSpacing separators)).reverse]
  | count + 2, gs =>
    match firstField? separators gs with
    | none => []
    | some (field, rest) => field :: fieldsUpTo separators (count + 1) rest

end Glyph

/-- The pattern characters of a path, cut at the slashes. -/
def pathSteps (cs : List PatternChar) : List (List PatternChar) := cs.splitOnP (·.1 == '/')

/-- The paths that a pattern stands for, given the path in front of the steps that are left. -/
def matchingPaths (fs : FileSystem) (here : Location) :
    (before : String) → List (List PatternChar) → List String
  | before, [] => [before]
  | before, step :: rest =>
    let ends := if rest.isEmpty then "" else "/"
    let pattern := Pattern.ofChars step
    if !Pattern.isOpen pattern then
      let path := before ++ String.ofList (step.map (·.1))
      if rest.isEmpty then
        if (fs.findEntry here (toBytes path)).toOption.isSome then [path] else []
      else matchingPaths fs here (path ++ ends) rest
    else
      let above := if before.isEmpty then "." else before
      match fs.list here (toBytes above) with
      | .error _ => []
      | .ok names =>
        let showsHidden := step.head?.any (·.1 == '.')
        let names := ([".", ".."] ++ names.map byteText).filter fun n =>
          (showsHidden || !n.startsWith ".") && Pattern.doesMatch pattern n.toList
        names.flatMap fun n => matchingPaths fs here (before ++ n ++ ends) rest

/-- The paths that a field stands for if it is an open pattern and there are any, sorted, and
otherwise its text. -/
def pathsOf (fs : FileSystem) (here : Location) (field : List Glyph) : List String :=
  let cs := Glyph.patternChars field
  if !Pattern.isOpen (Pattern.ofChars cs) then [Glyph.text field]
  else
    match matchingPaths fs here "" (pathSteps cs) with
    | [] => [Glyph.text field]
    | paths => paths.mergeSort fun a b => a ≤ b

end PocketShell.Machine.Script
