/-!
# UTF-8

Texts as bytes and bytes as texts. The decoder reads one byte at a time and keeps what it has
read of an unfinished character, so that it can tell bytes that are wrong from bytes that
merely stop too early.
-/

namespace PocketShell.Text

/-- Bytes as the system sees them: names, file contents, input and output. -/
abbrev Bytes := List UInt8

/-- The bytes of a text. -/
def encode (s : String) : Bytes := s.toList.flatMap String.utf8EncodeChar

/-- A character of which the first bytes have been read: the bits so far, how many bytes it
still needs, and the least and the greatest byte that may come next. -/
structure Unfinished where
  value : Nat
  needs : Nat
  low : UInt8
  high : UInt8
  deriving DecidableEq, Repr

/-- What the first byte of a character says. -/
inductive Lead where
  | single (c : Char)
  | opens (u : Unfinished)
  | refused
  deriving DecidableEq, Repr

/-- The first byte of a character. The bounds on the second byte keep out the overlong forms,
the surrogates and the values above U+10FFFF. -/
def lead (b : UInt8) : Lead :=
  if b < 0x80 then .single (Char.ofNat b.toNat)
  else if b < 0xC2 then .refused
  else if b < 0xE0 then .opens ⟨b.toNat - 0xC0, 1, 0x80, 0xBF⟩
  else if b = 0xE0 then .opens ⟨0x0, 2, 0xA0, 0xBF⟩
  else if b = 0xED then .opens ⟨0xD, 2, 0x80, 0x9F⟩
  else if b < 0xF0 then .opens ⟨b.toNat - 0xE0, 2, 0x80, 0xBF⟩
  else if b = 0xF0 then .opens ⟨0x0, 3, 0x90, 0xBF⟩
  else if b < 0xF4 then .opens ⟨b.toNat - 0xF0, 3, 0x80, 0xBF⟩
  else if b = 0xF4 then .opens ⟨0x4, 3, 0x80, 0x8F⟩
  else .refused

/-- How a run of bytes ends: between characters, inside a character that is right so far, or
at a byte that no text has there. -/
inductive Ending where
  | whole
  | cut
  | broken
  deriving DecidableEq, Repr

/-- The characters decoded and how the decoding ended. -/
structure Decoded where
  chars : List Char
  ending : Ending
  deriving DecidableEq, Repr

/-- A decoding with one more character in front. -/
def Decoded.push (c : Char) (d : Decoded) : Decoded := { d with chars := c :: d.chars }

/-- Decoding from the middle of an unfinished character, if there is one. -/
def decodeFrom : Option Unfinished → Bytes → Decoded
  | none, [] => ⟨[], .whole⟩
  | some _, [] => ⟨[], .cut⟩
  | none, b :: bs =>
    match lead b with
    | .single c => (decodeFrom none bs).push c
    | .opens u => decodeFrom (some u) bs
    | .refused => ⟨[], .broken⟩
  | some u, b :: bs =>
    if u.low ≤ b ∧ b ≤ u.high then
      let value := u.value * 0x40 + (b.toNat - 0x80)
      if u.needs ≤ 1 then (decodeFrom none bs).push (Char.ofNat value)
      else decodeFrom (some ⟨value, u.needs - 1, 0x80, 0xBF⟩) bs
    else ⟨[], .broken⟩

/-- Decoding from the start. -/
def decode (bs : Bytes) : Decoded := decodeFrom none bs

/-- The text of the bytes, if they are well-formed to the end. -/
def decode? (bs : Bytes) : Option String :=
  match decode bs with
  | ⟨cs, .whole⟩ => some (String.ofList cs)
  | _ => none

/-- The character that stands for bytes that are none. -/
def replacement : Char := '\uFFFD'

/-- What the first byte of a character adds to a text in which wrong bytes are replaced, and
the character that it opens. -/
def leadReplaced (b : UInt8) : List Char × Option Unfinished :=
  match lead b with
  | .single c => ([c], none)
  | .opens u => ([], some u)
  | .refused => ([replacement], none)

/-- Decoding in which wrong bytes are replaced, from the middle of an unfinished character if
there is one. The bytes of a character that breaks off are replaced together, and the byte at
which it does is looked at anew. -/
def decodeReplacingFrom : Option Unfinished → Bytes → List Char
  | none, [] => []
  | some _, [] => [replacement]
  | none, b :: bs =>
    let (cs, opened) := leadReplaced b
    cs ++ decodeReplacingFrom opened bs
  | some u, b :: bs =>
    if u.low ≤ b ∧ b ≤ u.high then
      let value := u.value * 0x40 + (b.toNat - 0x80)
      if u.needs ≤ 1 then Char.ofNat value :: decodeReplacingFrom none bs
      else decodeReplacingFrom (some ⟨value, u.needs - 1, 0x80, 0xBF⟩) bs
    else
      let (cs, opened) := leadReplaced b
      replacement :: cs ++ decodeReplacingFrom opened bs

/-- The text of the bytes, with `replacement` where they are none. -/
def decodeReplacing (bs : Bytes) : String := String.ofList (decodeReplacingFrom none bs)

end PocketShell.Text
