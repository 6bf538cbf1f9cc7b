import PocketShell.Proofs.WellFormedBytes

/-!
# Bytes with the wrong ones escaped

A system can hand over any bytes as code points: it decodes what it can, and escapes every byte that
belongs to no character as a surrogate of its own. No encoding has surrogates, so these code points
can be encoded again exactly if no byte was escaped, and what comes out then are the bytes that went
in.

Main statement: `encodeCodes?_escaped`, by which this round trip is a test for well-formed bytes.

## Implementation notes

The bytes of an unfinished character are held back until it is clear whether they belong to one. A
byte at which it breaks off is looked at anew, as in the decoder that replaces wrong bytes. As
`piecesFrom` and the strict decoder read the same bytes in the same states, the two are compared
byte by byte, by `Follows`, and not through the table of sequences.
-/

namespace PocketShell.Text

/-- A character, or a byte that belongs to none. -/
inductive Piece where
  | char (c : Char)
  | stray (b : UInt8)
  deriving DecidableEq, Repr

/-- The code point of a piece. That of a stray byte is a surrogate. -/
def Piece.code : Piece → Nat
  | .char c => c.toNat
  | .stray b => 0xDC00 + b.toNat

/-- What the first byte of a character adds to the pieces, and the character that it opens, with
the bytes of it that have been read. -/
def leadPieces (b : UInt8) : List Piece × Option (Unfinished × Bytes) :=
  match lead b with
  | .single c => ([.char c], none)
  | .opens u => ([], some (u, [b]))
  | .refused => ([.stray b], none)

/-- The pieces of bytes, from the middle of an unfinished character if there is one. -/
def piecesFrom : Option (Unfinished × Bytes) → Bytes → List Piece
  | none, [] => []
  | some (_, held), [] => held.map .stray
  | none, b :: bs =>
    let (ps, opened) := leadPieces b
    ps ++ piecesFrom opened bs
  | some (u, held), b :: bs =>
    if u.low ≤ b ∧ b ≤ u.high then
      let value := u.value * 0x40 + (b.toNat - 0x80)
      if u.needs ≤ 1 then .char (Char.ofNat value) :: piecesFrom none bs
      else piecesFrom (some (⟨value, u.needs - 1, 0x80, 0xBF⟩, held ++ [b])) bs
    else
      let (ps, opened) := leadPieces b
      held.map .stray ++ ps ++ piecesFrom opened bs

/-- The code points that bytes are handed over as. -/
def escaped (bs : Bytes) : List Nat := (piecesFrom none bs).map Piece.code

/-- The bytes of code points, if all of them are those of characters. -/
def encodeCodes? (codes : List Nat) : Option Bytes :=
  if ∀ n ∈ codes, n.isValidChar then
    some (codes.flatMap fun n => String.utf8EncodeChar (Char.ofNat n))
  else none

/-- Pieces follow a decoding: they are the characters that are decoded, and behind them a byte is
escaped if the bytes are not decoded to their end. -/
inductive Follows : List Piece → Decoded → Prop
  | whole : Follows [] ⟨[], .whole⟩
  | stray {b ps ending} (h : ending ≠ .whole) : Follows (.stray b :: ps) ⟨[], ending⟩
  | push {c ps d} (h : Follows ps d) : Follows (.char c :: ps) (d.push c)

/-- Escaped bytes in front of any pieces follow a decoding that does not come to its end. -/
theorem follows_of_held {held : Bytes} (hne : held ≠ []) {ending : Ending} (h : ending ≠ .whole)
    (ps : List Piece) : Follows (held.map .stray ++ ps) ⟨[], ending⟩ := by
  obtain ⟨b, rest, rfl⟩ := List.exists_cons_of_ne_nil hne
  exact .stray h

/-- The pieces of bytes follow their decoding. Where it goes on inside a character, something of the
character has been read. -/
theorem follows_piecesFrom {u : Option (Unfinished × Bytes)} (hu : ∀ v ∈ u, v.2 ≠ [])
    (bs : Bytes) : Follows (piecesFrom u bs) (decodeFrom (u.map Prod.fst) bs) := by
  induction bs generalizing u with
  | nil =>
      rcases u with _ | ⟨u, held⟩
      · exact .whole
      · rw [Option.map_some, decodeFrom, piecesFrom, ← List.append_nil (held.map _)]
        exact follows_of_held (hu _ rfl) (by simp) []
  | cons b bs ih =>
      rcases u with _ | ⟨u, held⟩
      · rw [Option.map_none, decodeFrom, piecesFrom, leadPieces]
        cases lead b with
        | single c => exact .push (ih (u := none) (by simp))
        | opens v => exact ih (u := some (v, [b])) (by simp)
        | refused => exact .stray (by simp)
      · rw [Option.map_some, decodeFrom, piecesFrom]
        by_cases hbounds : u.low ≤ b ∧ b ≤ u.high
        · rw [if_pos hbounds, if_pos hbounds]
          dsimp only
          by_cases hlast : u.needs ≤ 1
          · rw [if_pos hlast, if_pos hlast]
            exact .push (ih (u := none) (by simp))
          · rw [if_neg hlast, if_neg hlast]
            exact ih (u := some (_, held ++ [b])) (by simp)
        · rw [if_neg hbounds, if_neg hbounds]
          rcases leadPieces b with ⟨ps, opened⟩
          dsimp only
          rw [List.append_assoc]
          exact follows_of_held (hu _ rfl) (by simp) _

/-- The pieces of bytes that are decoded to their end are the characters. -/
theorem Follows.eq_of_whole {ps : List Piece} {d : Decoded} (h : Follows ps d)
    (hwhole : d.ending = .whole) : ps = d.chars.map .char := by
  induction h with
  | whole => rfl
  | stray h => exact absurd hwhole h
  | @push c ps d _ ih => exact congrArg (.char c :: ·) (ih hwhole)

/-- Of bytes that are not decoded to their end, one is escaped. -/
theorem Follows.exists_stray {ps : List Piece} {d : Decoded} (h : Follows ps d)
    (hwhole : d.ending ≠ .whole) : ∃ b, .stray b ∈ ps := by
  induction h with
  | whole => exact absurd rfl hwhole
  | @stray b ps ending h => exact ⟨b, List.mem_cons_self⟩
  | push _ ih =>
      obtain ⟨b, hb⟩ := ih hwhole
      exact ⟨b, List.mem_cons_of_mem _ hb⟩

/-- The code point of an escaped byte is that of no character. -/
theorem not_isValidChar_stray (b : UInt8) : ¬ (Piece.stray b).code.isValidChar := by
  have hb := b.toNat_lt
  simp only [Piece.code, Nat.isValidChar]
  omega

/-- A text is handed over as its code points. -/
theorem escaped_encode (s : String) : escaped (encode s) = s.toList.map Char.toNat := by
  have hfollows : Follows (piecesFrom none (encode s)) (decode (encode s)) :=
    follows_piecesFrom (by simp) _
  rw [decode_encode] at hfollows
  rw [escaped, hfollows.eq_of_whole rfl, List.map_map]
  rfl

/-- The code points of a text are encoded as the text. -/
theorem encodeCodes?_toNat (s : String) :
    encodeCodes? (s.toList.map Char.toNat) = some (encode s) := by
  have hvalid : ∀ n ∈ s.toList.map Char.toNat, n.isValidChar := by
    intro n hn
    obtain ⟨c, -, rfl⟩ := List.mem_map.mp hn
    exact c.valid
  rw [encodeCodes?, if_pos hvalid, List.flatMap_map]
  simp [encode]

/-- Handing bytes over and encoding them again gives the bytes if they are well-formed, and nothing
if they are not. -/
theorem encodeCodes?_escaped (bs : Bytes) :
    encodeCodes? (escaped bs) = if WellFormed bs then some bs else none := by
  by_cases h : WellFormed bs
  · obtain ⟨s, rfl⟩ := wellFormed_iff.mp h
    rw [if_pos h, escaped_encode, encodeCodes?_toNat]
  · rw [if_neg h]
    have hfollows : Follows (piecesFrom none bs) (decode bs) := follows_piecesFrom (by simp) _
    obtain ⟨b, hb⟩ := hfollows.exists_stray (mt wellFormed_iff_whole.mpr h)
    have hcodes : ¬ ∀ n ∈ escaped bs, n.isValidChar := by
      intro hvalid
      exact not_isValidChar_stray b (hvalid _ (List.mem_map_of_mem hb))
    rw [encodeCodes?, if_neg hcodes]

end PocketShell.Text
