import PocketShell.Text.Utf8

/-!
# Bytes as characters

Scripts handle bytes. They are seen as the characters with the same numbers, so that the text
of a script can be told apart by character and written back unchanged.
-/

namespace PocketShell.Machine.Script

open PocketShell.Text (Bytes encode)

/-- The characters with the numbers of the bytes. -/
def ofBytes (bs : Bytes) : List Char := bs.map fun b => Char.ofNat b.toNat

/-- The bytes with the numbers of the characters. -/
def toBytes (s : String) : Bytes := s.toList.map fun c => UInt8.ofNat c.toNat

/-- The text of bytes. -/
def byteText (bs : Bytes) : String := String.ofList (ofBytes bs)

/-- A text as scripts see it. -/
def seenText (s : String) : String := byteText (encode s)

/-- How many bytes the first character of a text has. A byte that is part of none is taken for
one. -/
def characterLength (cs : List Char) : Nat :=
  match cs with
  | [] => 1
  | c :: _ =>
    match Text.lead (UInt8.ofNat c.toNat) with
    | .opens u =>
      let bytes := (cs.take (u.needs + 1)).map fun c => UInt8.ofNat c.toNat
      if (Text.decode? bytes).isSome then u.needs + 1 else 1
    | _ => 1

/-- The characters of a text, each as its bytes. -/
def characters : (fuel : Nat) → List Char → List (List Char)
  | 0, _ => []
  | _, [] => []
  | fuel + 1, cs =>
    let n := characterLength cs
    cs.take n :: characters fuel (cs.drop n)

/-- The characters of a text, each as its bytes. -/
def charactersOf (s : String) : List (List Char) := characters s.length s.toList

/-- The number of the character that bytes are, or of the first of them. -/
def codeOf (cs : List Char) : Nat :=
  match Text.decode? (cs.map fun c => UInt8.ofNat c.toNat) with
  | some s => (s.toList.head?.map Char.toNat).getD 0
  | none => (cs.head?.map Char.toNat).getD 0

/-- The path of what names on the way from the root lead to. -/
def physicalPath (names : List Bytes) : String := "/" ++ "/".intercalate (names.map byteText)

end PocketShell.Machine.Script
