import PocketShell.Proofs.Decoding

/-!
# Well-formed bytes and their flaws

Bytes are well-formed if they are sequences of the table one behind the other, which is to say that
they are the encoding of a text. In bytes that are not, there is a first place where no sequence
begins. `Flaw` lists what can stand there: a byte from the middle of a sequence, a longer form of
what a shorter sequence spells, a surrogate, a value above the last code point, and a sequence that
breaks off.

Main statement: `not_wellFormed_iff`.
-/

namespace PocketShell.Text

/-- Bytes that are put together from the sequences of the table. -/
inductive WellFormed : Bytes → Prop
  | nil : WellFormed []
  | append {n word rest} (h : Spells n word) (later : WellFormed rest) : WellFormed (word ++ rest)

/-- A byte from the middle of a sequence. -/
def IsInner (b : UInt8) : Prop := 0x80 ≤ b ∧ b ≤ 0xBF

instance (b : UInt8) : Decidable (IsInner b) := inferInstanceAs (Decidable (_ ∧ _))

/-- How many bytes stand behind the first byte of a sequence. -/
def innerBytes (b : UInt8) : Nat :=
  if 0xC2 ≤ b ∧ b ≤ 0xDF then 1
  else if 0xE0 ≤ b ∧ b ≤ 0xEF then 2
  else if 0xF0 ≤ b ∧ b ≤ 0xF4 then 3
  else 0

/-- How many bytes are asked for by what a first byte says. -/
def Lead.needs : Lead → Nat
  | .opens u => u.needs
  | _ => 0

/-- Bytes at whose start no sequence begins, by what is wrong with them. -/
inductive Flaw : Bytes → Prop
  /-- A byte from the middle of a sequence, with no first byte in front. -/
  | stray {b rest} (h : IsInner b) : Flaw (b :: rest)
  /-- Two bytes for what one spells. -/
  | overlongTwo {b rest} (h : b = 0xC0 ∨ b = 0xC1) : Flaw (b :: rest)
  /-- Three bytes for what two spell. -/
  | overlongThree {b rest} (h : 0x80 ≤ b ∧ b < 0xA0) : Flaw (0xE0 :: b :: rest)
  /-- Four bytes for what three spell. -/
  | overlongFour {b rest} (h : 0x80 ≤ b ∧ b < 0x90) : Flaw (0xF0 :: b :: rest)
  /-- A surrogate, which is no character. -/
  | surrogate {b rest} (h : 0xA0 ≤ b ∧ b ≤ 0xBF) : Flaw (0xED :: b :: rest)
  /-- A value above U+10FFFF, by its second byte. -/
  | tooLarge {b rest} (h : 0x90 ≤ b ∧ b ≤ 0xBF) : Flaw (0xF4 :: b :: rest)
  /-- A byte that only larger values have. -/
  | beyond {b rest} (h : 0xF5 ≤ b) : Flaw (b :: rest)
  /-- A first byte with fewer bytes behind it than belong there. -/
  | truncated {b inner rest} (hlength : inner.length < innerBytes b)
      (hinner : ∀ x ∈ inner, IsInner x) (hrest : ∀ x ∈ rest.head?, ¬ IsInner x) :
      Flaw (b :: (inner ++ rest))

/-! ### Well-formed bytes -/

/-- Well-formed bytes are the encodings of texts. -/
theorem wellFormed_iff {bs : Bytes} : WellFormed bs ↔ ∃ s, bs = encode s := by
  constructor
  · intro h
    induction h with
    | nil => exact ⟨"", rfl⟩
    | @append n word rest h _ ih =>
        obtain ⟨s, rfl⟩ := ih
        refine ⟨String.singleton (Char.ofNat n) ++ s, ?_⟩
        simp [encode, h.utf8EncodeChar_eq]
  · rintro ⟨s, rfl⟩
    rw [encode]
    induction s.toList with
    | nil => exact .nil
    | cons c cs ih => exact .append (spells_utf8EncodeChar c) ih

/-- They are the bytes that are decoded to their end. -/
theorem wellFormed_iff_whole {bs : Bytes} : WellFormed bs ↔ (decode bs).ending = .whole := by
  constructor
  · intro h
    obtain ⟨s, rfl⟩ := wellFormed_iff.mp h
    rw [decode_encode]
  · intro h
    exact wellFormed_iff.mpr (exists_encode_of_whole h)

instance (bs : Bytes) : Decidable (WellFormed bs) := decidable_of_iff _ wellFormed_iff_whole.symm

/-- Bytes are decoded to the text that they encode, and to none if there is no such text. -/
theorem decode?_eq_some_iff {bs : Bytes} {s : String} : decode? bs = some s ↔ bs = encode s := by
  rw [decode?]
  constructor
  · intro h
    split at h
    · next cs heq =>
        obtain rfl := Option.some.inj h
        rw [encode, String.toList_ofList]
        exact decode_eq_whole_iff.mp heq
    · cases h
  · rintro rfl
    rw [decode_encode]
    simp

/-- Bytes that are not well-formed have no text. -/
theorem decode?_eq_none {bs : Bytes} (h : ¬ WellFormed bs) : decode? bs = none := by
  rw [Option.eq_none_iff_forall_ne_some]
  intro s hs
  exact h (wellFormed_iff.mpr ⟨s, decode?_eq_some_iff.mp hs⟩)

/-! ### The decoder at a flaw -/

/-- What holds of the 256 bytes one by one holds of all. -/
theorem forall_byte {p : UInt8 → Prop} (h : ∀ n < 256, p (.ofNat n)) (b : UInt8) : p b := by
  have hb := h b.toNat b.toNat_lt
  rwa [UInt8.ofNat_toNat] at hb

/-- No sequence begins with a byte from the middle of one, with one of the two bytes that only
overlong forms have, or with one that only larger values have. -/
theorem lead_eq_refused_iff (b : UInt8) :
    lead b = .refused ↔ IsInner b ∨ (b = 0xC0 ∨ b = 0xC1) ∨ 0xF5 ≤ b :=
  forall_byte (p := fun b => lead b = .refused ↔ IsInner b ∨ (b = 0xC0 ∨ b = 0xC1) ∨ 0xF5 ≤ b)
    (by decide +kernel) b

/-- A first byte that opens a sequence asks for the bytes that belong behind it. -/
theorem lead_of_innerBytes {b : UInt8} (hpos : 0 < innerBytes b) :
    ∃ u, lead b = .opens u ∧ u.needs = innerBytes b := by
  have hneeds : (lead b).needs = innerBytes b :=
    forall_byte (p := fun b => (lead b).needs = innerBytes b) (by decide +kernel) b
  cases hb : lead b with
  | opens u =>
      rw [hb] at hneeds
      exact ⟨u, rfl, hneeds⟩
  | single c | refused =>
      rw [← hneeds, hb] at hpos
      cases hpos

theorem ending_of_refused {b : UInt8} (h : lead b = .refused) (bs : Bytes) :
    (decode (b :: bs)).ending = .broken := by
  rw [decode, decodeFrom, h]

/-- A byte outside the bounds breaks a sequence. -/
theorem ending_of_outside {u : Unfinished} {b : UInt8} (h : ¬ (u.low ≤ b ∧ b ≤ u.high))
    (bs : Bytes) : (decodeFrom (some u) (b :: bs)).ending = .broken := by
  rw [decodeFrom, if_neg h]

/-- A sequence that breaks off is never decoded to its end. -/
theorem ending_of_truncated {u : Unfinished} {inner rest : Bytes} (hu : u.Bounded)
    (hlength : inner.length < u.needs) (hrest : ∀ x ∈ rest.head?, ¬ IsInner x) :
    (decodeFrom (some u) (inner ++ rest)).ending ≠ .whole := by
  induction inner generalizing u with
  | nil =>
      cases rest with
      | nil => simp [decodeFrom]
      | cons b rest =>
          have hb : ¬ (u.low ≤ b ∧ b ≤ u.high) := by
            intro h
            apply hrest b rfl
            exact ⟨UInt8.le_trans hu.1 h.1, UInt8.le_trans h.2 hu.2⟩
          rw [List.nil_append, ending_of_outside hb]
          simp
  | cons x inner ih =>
      rw [List.length_cons] at hlength
      rw [List.cons_append]
      by_cases hx : u.low ≤ x ∧ x ≤ u.high
      · have hneeds : ¬ u.needs ≤ 1 := by omega
        rw [decodeFrom, if_pos hx]
        dsimp only
        rw [if_neg hneeds]
        apply ih (bounded_inner _ _)
        dsimp only
        omega
      · rw [ending_of_outside hx]
        simp

/-- Bytes with a flaw at their start are not decoded to their end. -/
theorem Flaw.ending_ne {bs : Bytes} (h : Flaw bs) : (decode bs).ending ≠ .whole := by
  have hsecond {b : UInt8} {u : Unfinished} (hb : lead b = .opens u) {x : UInt8}
      (hx : ¬ (u.low ≤ x ∧ x ≤ u.high)) (rest : Bytes) :
      (decode (b :: x :: rest)).ending ≠ .whole := by
    rw [decode, decodeFrom, hb]
    dsimp only
    rw [ending_of_outside hx]
    simp
  cases h with
  | stray h => simp [ending_of_refused ((lead_eq_refused_iff _).mpr (Or.inl h))]
  | overlongTwo h => simp [ending_of_refused ((lead_eq_refused_iff _).mpr (Or.inr (Or.inl h)))]
  | beyond h => simp [ending_of_refused ((lead_eq_refused_iff _).mpr (Or.inr (Or.inr h)))]
  | overlongThree h =>
      apply hsecond (show lead 0xE0 = .opens ⟨0x0, 2, 0xA0, 0xBF⟩ from rfl)
      intro hx
      exact absurd hx.1 (UInt8.not_le.mpr h.2)
  | overlongFour h =>
      apply hsecond (show lead 0xF0 = .opens ⟨0x0, 3, 0x90, 0xBF⟩ from rfl)
      intro hx
      exact absurd hx.1 (UInt8.not_le.mpr h.2)
  | surrogate h =>
      apply hsecond (show lead 0xED = .opens ⟨0xD, 2, 0x80, 0x9F⟩ from rfl)
      intro hx
      exact absurd (UInt8.le_trans h.1 hx.2) (by decide)
  | tooLarge h =>
      apply hsecond (show lead 0xF4 = .opens ⟨0x4, 3, 0x80, 0x8F⟩ from rfl)
      intro hx
      exact absurd (UInt8.le_trans h.1 hx.2) (by decide)
  | @truncated b inner rest hlength hinner hrest =>
      obtain ⟨u, hu, hneeds⟩ := lead_of_innerBytes (Nat.lt_of_le_of_lt (Nat.zero_le _) hlength)
      rw [decode, decodeFrom, hu]
      exact ending_of_truncated (bounded_of_lead hu) (hneeds ▸ hlength) hrest

/-! ### The first flaw -/

/-- A byte from the middle of a sequence has six bits. -/
theorem IsInner.exists_bits {b : UInt8} (h : IsInner b) :
    ∃ x < 0x40, b = .ofNat (x + 0x80) := by
  obtain ⟨hlow, hhigh⟩ := h
  simp only [UInt8.le_iff_toNat_le, UInt8.reduceToNat] at hlow hhigh
  refine ⟨b.toNat - 0x80, by omega, ?_⟩
  rw [Nat.sub_add_cancel hlow, UInt8.ofNat_toNat]

theorem toNat_inner {x : Nat} (hx : x < 0x40) : (UInt8.ofNat (x + 0x80)).toNat = x + 0x80 := by
  rw [UInt8.toNat_ofNat']
  omega

/-- Bytes begin with a longest run of bytes from the middle of sequences. -/
theorem exists_inner (bs : Bytes) :
    ∃ inner rest, bs = inner ++ rest ∧ (∀ x ∈ inner, IsInner x) ∧
      ∀ x ∈ rest.head?, ¬ IsInner x := by
  induction bs with
  | nil => exact ⟨[], [], rfl, by simp, by simp⟩
  | cons b bs ih =>
      by_cases hb : IsInner b
      · obtain ⟨inner, rest, rfl, hinner, hrest⟩ := ih
        exact ⟨b :: inner, rest, rfl, List.forall_mem_cons.mpr ⟨hb, hinner⟩, hrest⟩
      · exact ⟨[], b :: bs, rfl, by simp, by simpa using hb⟩

/-- Three bytes that spell nothing, though the two behind the first are from the middle of a
sequence. -/
theorem flaw_three {a x y : Nat} {rest : Bytes} (ha : a < 0x10) (hx : x < 0x40) (hy : y < 0x40)
    (h : ∀ n word rest', Spells n word →
      .ofNat (a + 0xE0) :: .ofNat (x + 0x80) :: .ofNat (y + 0x80) :: rest ≠ word ++ rest') :
    Flaw (.ofNat (a + 0xE0) :: .ofNat (x + 0x80) :: .ofNat (y + 0x80) :: rest) := by
  have hbyte := toNat_inner hx
  by_cases hshort : a = 0 → 0x20 ≤ x
  · by_cases hsurrogate : a = 0xD → x < 0x20
    · exact absurd rfl (h _ _ _ (.three ha hx hy hshort hsurrogate))
    · obtain ⟨rfl, hlarge⟩ := Classical.not_imp.mp hsurrogate
      apply Flaw.surrogate
      simp only [UInt8.le_iff_toNat_le, UInt8.reduceToNat, hbyte]
      omega
  · obtain ⟨rfl, hsmall⟩ := Classical.not_imp.mp hshort
    apply Flaw.overlongThree
    simp only [UInt8.le_iff_toNat_le, UInt8.lt_iff_toNat_lt, UInt8.reduceToNat, hbyte]
    omega

/-- Four bytes that spell nothing, though the three behind the first are from the middle of a
sequence. -/
theorem flaw_four {a x y z : Nat} {rest : Bytes} (ha : a < 5) (hx : x < 0x40) (hy : y < 0x40)
    (hz : z < 0x40)
    (h : ∀ n word rest', Spells n word →
      .ofNat (a + 0xF0) :: .ofNat (x + 0x80) :: .ofNat (y + 0x80) :: .ofNat (z + 0x80) :: rest ≠
        word ++ rest') :
    Flaw (.ofNat (a + 0xF0) :: .ofNat (x + 0x80) :: .ofNat (y + 0x80) :: .ofNat (z + 0x80) ::
      rest) := by
  have hbyte := toNat_inner hx
  by_cases hshort : a = 0 → 0x10 ≤ x
  · by_cases hlast : a = 4 → x < 0x10
    · exact absurd rfl (h _ _ _ (.four ha hx hy hz hshort hlast))
    · obtain ⟨rfl, hlarge⟩ := Classical.not_imp.mp hlast
      apply Flaw.tooLarge
      simp only [UInt8.le_iff_toNat_le, UInt8.reduceToNat, hbyte]
      omega
  · obtain ⟨rfl, hsmall⟩ := Classical.not_imp.mp hshort
    apply Flaw.overlongFour
    simp only [UInt8.le_iff_toNat_le, UInt8.lt_iff_toNat_lt, UInt8.reduceToNat, hbyte]
    omega

/-- How many bytes stand behind a first byte, by the mark in it. -/
theorem innerBytes_two : ∀ a < 0x20, 2 ≤ a → innerBytes (.ofNat (a + 0xC0)) = 1 := by
  decide

theorem innerBytes_three : ∀ a < 0x10, innerBytes (.ofNat (a + 0xE0)) = 2 := by
  decide

theorem innerBytes_four : ∀ a < 5, innerBytes (.ofNat (a + 0xF0)) = 3 := by
  decide

/-- Where no sequence begins, there is a flaw. -/
theorem flaw_of_not_spells {b : UInt8} {bs : Bytes}
    (h : ∀ n word rest, Spells n word → b :: bs ≠ word ++ rest) : Flaw (b :: bs) := by
  obtain ⟨inner, rest, rfl, hinner, hrest⟩ := exists_inner bs
  by_cases hlength : inner.length < innerBytes b
  · exact .truncated hlength hinner hrest
  -- enough bytes stand behind the first, so what is wrong is in the first two
  rcases lead_cases b with ⟨a, ha, rfl⟩ | ⟨a, ha, hshort, rfl⟩ | ⟨a, ha, rfl⟩ | ⟨a, ha, rfl⟩ | hb
  · exact absurd rfl (h _ _ _ (.one ha))
  · rw [innerBytes_two a ha hshort] at hlength
    rcases inner with _ | ⟨x, inner⟩
    · simp at hlength
    simp only [List.forall_mem_cons] at hinner
    obtain ⟨x, hx, rfl⟩ := hinner.1.exists_bits
    exact absurd rfl (h _ _ _ (.two ha hx hshort))
  · rw [innerBytes_three a ha] at hlength
    rcases inner with _ | ⟨x, _ | ⟨y, inner⟩⟩
    · simp at hlength
    · simp at hlength
    simp only [List.forall_mem_cons] at hinner
    obtain ⟨x, hx, rfl⟩ := hinner.1.exists_bits
    obtain ⟨y, hy, rfl⟩ := hinner.2.1.exists_bits
    exact flaw_three ha hx hy h
  · rw [innerBytes_four a ha] at hlength
    rcases inner with _ | ⟨x, _ | ⟨y, _ | ⟨z, inner⟩⟩⟩
    · simp at hlength
    · simp at hlength
    · simp at hlength
    simp only [List.forall_mem_cons] at hinner
    obtain ⟨x, hx, rfl⟩ := hinner.1.exists_bits
    obtain ⟨y, hy, rfl⟩ := hinner.2.1.exists_bits
    obtain ⟨z, hz, rfl⟩ := hinner.2.2.1.exists_bits
    exact flaw_four ha hx hy hz h
  · rcases (lead_eq_refused_iff b).mp hb with hstray | hoverlong | hbeyond
    · exact .stray hstray
    · exact .overlongTwo hoverlong
    · exact .beyond hbeyond

/-- Bytes are not well-formed exactly if there is a flaw in them behind a text. -/
theorem not_wellFormed_iff {bs : Bytes} :
    ¬ WellFormed bs ↔ ∃ s rest, bs = encode s ++ rest ∧ Flaw rest := by
  constructor
  · intro h
    induction hlen : bs.length using Nat.strongRecOn generalizing bs with
    | _ len ih =>
      cases bs with
      | nil => exact absurd .nil h
      | cons b bs =>
          by_cases hspells : ∃ n word rest, Spells n word ∧ b :: bs = word ++ rest
          · obtain ⟨n, word, rest, hword, heq⟩ := hspells
            have hlater : ¬ WellFormed rest := by
              intro hrest
              apply h
              rw [heq]
              exact .append hword hrest
            have hshorter : rest.length < len := by
              have hpos := hword.length_pos
              rw [← hlen, heq, List.length_append]
              omega
            obtain ⟨s, flawed, rfl, hflaw⟩ := ih rest.length hshorter hlater rfl
            refine ⟨String.singleton (Char.ofNat n) ++ s, flawed, ?_, hflaw⟩
            rw [heq]
            simp [encode, hword.utf8EncodeChar_eq]
          · have hnone : ∀ n word rest, Spells n word → b :: bs ≠ word ++ rest := by
              intro n word rest hword heq
              exact hspells ⟨n, word, rest, hword, heq⟩
            exact ⟨"", b :: bs, rfl, flaw_of_not_spells hnone⟩
  · rintro ⟨s, rest, rfl, hflaw⟩ h
    rw [wellFormed_iff_whole, encode, decode_flatMap_append] at h
    exact hflaw.ending_ne h

end PocketShell.Text
