import PocketShell.Machine.Script.ByteText

/-!
# Quotation

How complaints show the words that they are about: in printed quotes, or so that a shell would
read the word again. A character that cannot be shown, or a byte that is part of none, is written
as an escape.
-/

namespace PocketShell.Machine

open Script (seenText charactersOf codeOf)

/-- The letter that a character is written as behind a backslash. -/
def escapeLetter? : Char → Option Char
  | '\x07' => some 'a'
  | '\x08' => some 'b'
  | '\t' => some 't'
  | '\n' => some 'n'
  | '\x0b' => some 'v'
  | '\x0c' => some 'f'
  | '\r' => some 'r'
  | _ => none

/-- Whether the character with a number is a control or parts lines. -/
def isHidden (code : Nat) : Bool :=
  code < 0x20 || (0x7F ≤ code && code < 0xA0) || code = 0x2028 || code = 0x2029

/-- A byte as three octal digits behind a backslash. -/
def octalEscape (c : Char) : List Char :=
  let digit (n : Nat) := Char.ofNat ('0'.toNat + n)
  ['\\', digit (c.toNat / 64), digit (c.toNat / 8 % 8), digit (c.toNat % 8)]

/-- What the bytes of a character are written as, if it cannot be shown. -/
def escape? (cs : List Char) : Option (List Char) :=
  match cs with
  | [c] =>
    match escapeLetter? c with
    | some letter => some ['\\', letter]
    | none => if isHidden c.toNat || 0x80 ≤ c.toNat then some (octalEscape c) else none
  | _ => if isHidden (codeOf cs) then some (cs.flatMap octalEscape) else none

/-- The rest of a text between single quotes. Escapes stand between quotes of their own, which a
dollar sign is in front of, and a quote stands outside of any. -/
def shellQuotedFrom : (inEscapes : Bool) → List (List Char) → List Char
  | _, [] => ['\'']
  | inEscapes, cs :: rest =>
    match escape? cs with
    | some escape =>
      let opening := if inEscapes then [] else ['\'', '$', '\'']
      opening ++ escape ++ shellQuotedFrom true rest
    | none =>
      if cs = ['\''] then '\'' :: '\\' :: '\'' :: '\'' :: shellQuotedFrom false rest
      else (if inEscapes then ['\'', '\''] else []) ++ cs ++ shellQuotedFrom false rest

/-- Whether a character stands for itself between double quotes, however they are read. -/
def isPlainInDouble (cs : List Char) : Bool :=
  (escape? cs).isNone && !(cs.any "!\"#$&()*;<=>?[\\^\x60\x7b|\x7d~".toList.contains)

/-- A word between quotes, as a shell would read it again. -/
def quoted (s : String) : String :=
  let cs := charactersOf s
  let isPlain := match cs with
    | [] => true
    | first :: rest => (isPlainInDouble first || first = ['#'] || first = ['~']) && rest.all isPlainInDouble
  if s.toList.contains '\'' && isPlain then "\"" ++ s ++ "\""
  else String.ofList ('\'' :: shellQuotedFrom false cs)

/-- Whether a shell takes a word for itself, without quotes. -/
def needsQuotes (s : String) : Bool :=
  let special := " !\"$&'()*;<=>?[\\^\x60|".toList
  s.isEmpty || s = "\x7b" || s = "\x7d" || s.startsWith "#" || s.startsWith "~" ||
    (charactersOf s).any fun cs => (escape? cs).isSome || cs.any special.contains

/-- A word between quotes if a shell would not take it for itself otherwise. -/
def quotedIfNeeded (s : String) : String := if needsQuotes s then quoted s else s

/-- The name of a file in front of a colon: between quotes also if it has a colon itself. -/
def quotedName (s : String) : String :=
  if s.toList.contains ':' then quoted s else quotedIfNeeded s

/-- A word between the quotes that printed texts have. -/
def curly (s : String) : String :=
  let closing := (seenText "’").toList
  let shown (cs : List Char) : List Char :=
    if cs = ['\\'] || cs = closing then '\\' :: cs else (escape? cs).getD cs
  seenText "‘" ++ String.ofList ((charactersOf s).flatMap shown ++ closing)

end PocketShell.Machine
