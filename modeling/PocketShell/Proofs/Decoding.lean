import PocketShell.Text.Utf8

/-!
# The decoder reads UTF-8 and nothing else

The decoder goes through its bytes one by one, while the encoding goes by characters. Between
the two stands `Spells`, the table of the well-formed sequences: a character is encoded by the
sequence that spells it, and the decoder reads a character where a sequence begins and nowhere
else. So bytes are decoded to their end exactly if they are the encoding of what is decoded.

Main statements: `decode_eq_whole_iff`; `ending_decodeFrom_snoc`, by which bytes with a line feed
at their end never stop inside a character.
-/

namespace PocketShell.Text

/-- The well-formed sequences of bytes, with the code point that each spells. The bits of the
code point are those of the first byte behind its mark, and six of every byte behind it. The
bounds on the second byte leave out what a shorter sequence spells, the surrogates, and what is
no code point. -/
inductive Spells : Nat → Bytes → Prop
  | one {a} (ha : a < 0x80) : Spells a [.ofNat a]
  | two {a x} (ha : a < 0x20) (hx : x < 0x40) (hshort : 2 ≤ a) :
      Spells (a * 0x40 + x) [.ofNat (a + 0xC0), .ofNat (x + 0x80)]
  | three {a x y} (ha : a < 0x10) (hx : x < 0x40) (hy : y < 0x40) (hshort : a = 0 → 0x20 ≤ x)
      (hsurrogate : a = 0xD → x < 0x20) :
      Spells ((a * 0x40 + x) * 0x40 + y)
        [.ofNat (a + 0xE0), .ofNat (x + 0x80), .ofNat (y + 0x80)]
  | four {a x y z} (ha : a < 5) (hx : x < 0x40) (hy : y < 0x40) (hz : z < 0x40)
      (hshort : a = 0 → 0x10 ≤ x) (hlast : a = 4 → x < 0x10) :
      Spells (((a * 0x40 + x) * 0x40 + y) * 0x40 + z)
        [.ofNat (a + 0xF0), .ofNat (x + 0x80), .ofNat (y + 0x80), .ofNat (z + 0x80)]

/-! ### Characters and sequences -/

/-- What a sequence spells is a character. -/
theorem Spells.toNat_ofNat {n : Nat} {bs : Bytes} (h : Spells n bs) :
    (Char.ofNat n).toNat = n := by
  have hvalid : n.isValidChar := by
    cases h <;> simp only [Nat.isValidChar] <;> omega
  rw [Char.ofNat, dif_pos hvalid]
  rfl

theorem Spells.length_pos {n : Nat} {bs : Bytes} (h : Spells n bs) : 0 < bs.length := by
  cases h <;> simp

/-- A character is encoded by the sequence that spells it. -/
theorem Spells.utf8EncodeChar_eq {n : Nat} {bs : Bytes} (h : Spells n bs) :
    String.utf8EncodeChar (Char.ofNat n) = bs := by
  have hn : (Char.ofNat n).val.toNat = n := h.toNat_ofNat
  simp only [String.utf8EncodeChar, hn]
  cases h with
  | one ha => rw [if_pos (by omega)]
  | @two a x ha hx hshort =>
    have h1 : (a * 0x40 + x) / 64 % 0x20 = a := by omega
    have h2 : (a * 0x40 + x) % 0x40 = x := by omega
    rw [if_neg (by omega), if_pos (by omega), h1, h2]
  | @three a x y ha hx hy hshort hsurrogate =>
    have h1 : ((a * 0x40 + x) * 0x40 + y) / 4096 % 0x10 = a := by omega
    have h2 : ((a * 0x40 + x) * 0x40 + y) / 64 % 0x40 = x := by omega
    have h3 : ((a * 0x40 + x) * 0x40 + y) % 0x40 = y := by omega
    rw [if_neg (by omega), if_neg (by omega), if_pos (by omega), h1, h2, h3]
  | @four a x y z ha hx hy hz hshort hlast =>
    have h1 : (((a * 0x40 + x) * 0x40 + y) * 0x40 + z) / 262144 % 8 = a := by omega
    have h2 : (((a * 0x40 + x) * 0x40 + y) * 0x40 + z) / 4096 % 0x40 = x := by omega
    have h3 : (((a * 0x40 + x) * 0x40 + y) * 0x40 + z) / 64 % 0x40 = y := by omega
    have h4 : (((a * 0x40 + x) * 0x40 + y) * 0x40 + z) % 0x40 = z := by omega
    rw [if_neg (by omega), if_neg (by omega), if_neg (by omega), h1, h2, h3, h4]

/-- Every character has a sequence that spells it. -/
theorem spells_utf8EncodeChar (c : Char) : Spells c.toNat (String.utf8EncodeChar c) := by
  have hvalid : c.toNat.isValidChar := c.valid
  simp only [Nat.isValidChar] at hvalid
  suffices h : ∃ bs, Spells c.toNat bs by
    obtain ⟨bs, h⟩ := h
    have heq := h.utf8EncodeChar_eq
    rw [Char.ofNat_toNat] at heq
    rwa [heq]
  generalize c.toNat = n at hvalid
  by_cases h1 : n < 0x80
  · exact ⟨_, .one h1⟩
  by_cases h2 : n < 0x800
  · have h := Spells.two (a := n / 0x40) (x := n % 0x40) (by omega) (by omega) (by omega)
    exact ⟨_, (show n / 0x40 * 0x40 + n % 0x40 = n by omega) ▸ h⟩
  by_cases h3 : n < 0x10000
  · have h := Spells.three (a := n / 0x1000) (x := n / 0x40 % 0x40) (y := n % 0x40)
      (by omega) (by omega) (by omega) (by omega) (by omega)
    exact ⟨_, (show (n / 0x1000 * 0x40 + n / 0x40 % 0x40) * 0x40 + n % 0x40 = n by omega) ▸ h⟩
  · have h := Spells.four (a := n / 0x40000) (x := n / 0x1000 % 0x40) (y := n / 0x40 % 0x40)
      (z := n % 0x40) (by omega) (by omega) (by omega) (by omega) (by omega) (by omega)
    exact ⟨_, (show ((n / 0x40000 * 0x40 + n / 0x1000 % 0x40) * 0x40 + n / 0x40 % 0x40) * 0x40 +
      n % 0x40 = n by omega) ▸ h⟩

/-! ### The decoder and sequences -/

/-- What the first byte of a sequence says, by the mark in it. -/
theorem lead_one : ∀ a < 0x80, lead (.ofNat a) = .single (.ofNat a) := by
  decide +kernel

theorem lead_two : ∀ a < 0x20, 2 ≤ a →
    lead (.ofNat (a + 0xC0)) = .opens ⟨a, 1, 0x80, 0xBF⟩ := by
  decide

theorem lead_three : ∀ a < 0x10, lead (.ofNat (a + 0xE0)) =
    .opens ⟨a, 2, if a = 0 then 0xA0 else 0x80, if a = 0xD then 0x9F else 0xBF⟩ := by
  decide

theorem lead_four : ∀ a < 5, lead (.ofNat (a + 0xF0)) =
    .opens ⟨a, 3, if a = 0 then 0x90 else 0x80, if a = 4 then 0x8F else 0xBF⟩ := by
  decide

/-- A byte begins a sequence, or it is refused. -/
theorem lead_cases (b : UInt8) :
    (∃ a < 0x80, b = .ofNat a) ∨ (∃ a < 0x20, 2 ≤ a ∧ b = .ofNat (a + 0xC0)) ∨
      (∃ a < 0x10, b = .ofNat (a + 0xE0)) ∨ (∃ a < 5, b = .ofNat (a + 0xF0)) ∨
      lead b = .refused := by
  have hall : ∀ n < 256, n < 0x80 ∨ 0xC2 ≤ n ∧ n < 0xF5 ∨ lead (.ofNat n) = .refused := by
    decide +kernel
  have hb : b = .ofNat b.toNat := by simp
  have hlt : b.toNat < 256 := b.toNat_lt
  generalize b.toNat = n at hb hlt
  subst hb
  rcases hall n hlt with h | h | h
  · exact Or.inl ⟨n, h, rfl⟩
  · by_cases h2 : n < 0xE0
    · exact Or.inr (Or.inl ⟨n - 0xC0, by omega, by omega, by congr; omega⟩)
    by_cases h3 : n < 0xF0
    · exact Or.inr (Or.inr (Or.inl ⟨n - 0xE0, by omega, by congr; omega⟩))
    · exact Or.inr (Or.inr (Or.inr (Or.inl ⟨n - 0xF0, by omega, by congr; omega⟩)))
  · exact Or.inr (Or.inr (Or.inr (Or.inr h)))

/-- The bounds on the next byte leave only bytes that begin no character. -/
def Unfinished.Bounded (u : Unfinished) : Prop := 0x80 ≤ u.low ∧ u.high ≤ 0xBF

/-- Six bits that the next byte may have. -/
def Unfinished.Admits (u : Unfinished) (x : Nat) : Prop :=
  x < 0x40 ∧ u.low.toNat ≤ x + 0x80 ∧ x + 0x80 ≤ u.high.toNat

/-- What the first byte of a character opens is bounded. -/
theorem bounded_of_lead {b : UInt8} {u : Unfinished} (h : lead b = .opens u) : u.Bounded := by
  simp only [lead] at h
  repeat' split at h
  all_goals simp only [reduceCtorEq, Lead.opens.injEq] at h
  all_goals
    subst h
    constructor <;> dsimp only <;> decide

/-- So is what is open behind a byte in the middle. -/
theorem bounded_inner (value needs : Nat) :
    Unfinished.Bounded ⟨value, needs, 0x80, 0xBF⟩ :=
  ⟨UInt8.le_refl _, UInt8.le_refl _⟩

theorem admits_inner {value needs x : Nat} :
    Unfinished.Admits ⟨value, needs, 0x80, 0xBF⟩ x ↔ x < 0x40 := by
  simp only [Unfinished.Admits, UInt8.reduceToNat]
  omega

theorem toNat_ite (p : Prop) [Decidable p] (b c : UInt8) :
    (if p then b else c).toNat = if p then b.toNat else c.toNat := by
  split <;> rfl

theorem admits_three {a x : Nat} :
    Unfinished.Admits
        ⟨a, 2, if a = 0 then 0xA0 else 0x80, if a = 0xD then 0x9F else 0xBF⟩ x ↔
      x < 0x40 ∧ (a = 0 → 0x20 ≤ x) ∧ (a = 0xD → x < 0x20) := by
  simp only [Unfinished.Admits, toNat_ite, UInt8.reduceToNat]
  split <;> split <;> omega

theorem admits_four {a x : Nat} :
    Unfinished.Admits
        ⟨a, 3, if a = 0 then 0x90 else 0x80, if a = 4 then 0x8F else 0xBF⟩ x ↔
      x < 0x40 ∧ (a = 0 → 0x10 ≤ x) ∧ (a = 4 → x < 0x10) := by
  simp only [Unfinished.Admits, toNat_ite, UInt8.reduceToNat]
  split <;> split <;> omega

/-- A byte within the bounds adds its six bits. -/
theorem Unfinished.Admits.decodeFrom_eq {u : Unfinished} {x : Nat} (h : u.Admits x)
    (bs : Bytes) :
    decodeFrom (some u) (.ofNat (x + 0x80) :: bs) =
      if u.needs ≤ 1 then (decodeFrom none bs).push (Char.ofNat (u.value * 0x40 + x))
      else decodeFrom (some ⟨u.value * 0x40 + x, u.needs - 1, 0x80, 0xBF⟩) bs := by
  obtain ⟨hx, hlow, hhigh⟩ := h
  have hb : (UInt8.ofNat (x + 0x80)).toNat = x + 0x80 := by
    rw [UInt8.toNat_ofNat']
    omega
  have hbounds : u.low ≤ .ofNat (x + 0x80) ∧ .ofNat (x + 0x80) ≤ u.high := by
    rw [UInt8.le_iff_toNat_le, UInt8.le_iff_toNat_le, hb]
    exact ⟨hlow, hhigh⟩
  rw [decodeFrom, if_pos hbounds, hb, Nat.add_sub_cancel]

/-- Inside a sequence, bytes are only decoded to their end if the next is within the bounds. -/
theorem exists_admits {u : Unfinished} {bs : Bytes} {cs : List Char} (hu : u.Bounded)
    (h : decodeFrom (some u) bs = ⟨cs, .whole⟩) :
    ∃ x rest, bs = .ofNat (x + 0x80) :: rest ∧ u.Admits x := by
  obtain ⟨hlow, hhigh⟩ := hu
  cases bs with
  | nil => cases h
  | cons b rest =>
    by_cases hb : u.low ≤ b ∧ b ≤ u.high
    · simp only [UInt8.le_iff_toNat_le, UInt8.reduceToNat] at hlow hhigh hb
      have hx : b.toNat - 0x80 + 0x80 = b.toNat := by omega
      refine ⟨b.toNat - 0x80, rest, ?_, by omega, by omega, by omega⟩
      rw [hx, UInt8.ofNat_toNat]
    · rw [decodeFrom, if_neg hb] at h
      cases h

/-- A sequence in front is read as the character that it spells. -/
theorem Spells.decode_append {n : Nat} {word : Bytes} (h : Spells n word) (bs : Bytes) :
    decode (word ++ bs) = (decode bs).push (Char.ofNat n) := by
  simp only [decode]
  cases h with
  | one ha =>
    simp only [List.cons_append, List.nil_append, decodeFrom, lead_one _ ha]
  | two ha hx hshort =>
    simp only [List.cons_append, List.nil_append]
    rw [decodeFrom, lead_two _ ha hshort]
    dsimp only
    rw [(admits_inner.mpr hx).decodeFrom_eq, if_pos (by simp)]
  | three ha hx hy hshort hsurrogate =>
    simp only [List.cons_append, List.nil_append]
    rw [decodeFrom, lead_three _ ha]
    dsimp only
    rw [(admits_three.mpr ⟨hx, hshort, hsurrogate⟩).decodeFrom_eq, if_neg (by simp),
      (admits_inner.mpr hy).decodeFrom_eq, if_pos (by simp)]
  | four ha hx hy hz hshort hlast =>
    simp only [List.cons_append, List.nil_append]
    rw [decodeFrom, lead_four _ ha]
    dsimp only
    rw [(admits_four.mpr ⟨hx, hshort, hlast⟩).decodeFrom_eq, if_neg (by simp),
      (admits_inner.mpr hy).decodeFrom_eq, if_neg (by simp),
      (admits_inner.mpr hz).decodeFrom_eq, if_pos (by simp)]

/-- Bytes that are decoded to their end begin with a sequence. -/
theorem exists_spells {b : UInt8} {bs : Bytes} {cs : List Char}
    (h : decode (b :: bs) = ⟨cs, .whole⟩) :
    ∃ n word rest, Spells n word ∧ b :: bs = word ++ rest := by
  simp only [decode] at h
  rcases lead_cases b with ⟨a, ha, rfl⟩ | ⟨a, ha, hshort, rfl⟩ | ⟨a, ha, rfl⟩ | ⟨a, ha, rfl⟩ | hb
  · exact ⟨_, _, bs, .one ha, rfl⟩
  · have hlead := lead_two a ha hshort
    rw [decodeFrom, hlead] at h
    obtain ⟨x, rest, rfl, hx⟩ := exists_admits (bounded_of_lead hlead) h
    exact ⟨_, _, rest, .two ha (admits_inner.mp hx) hshort, rfl⟩
  · have hlead := lead_three a ha
    rw [decodeFrom, hlead] at h
    obtain ⟨x, rest, rfl, hx⟩ := exists_admits (bounded_of_lead hlead) h
    dsimp only at h
    rw [hx.decodeFrom_eq, if_neg (by simp)] at h
    obtain ⟨y, rest, rfl, hy⟩ := exists_admits (bounded_inner _ _) h
    obtain ⟨hx, hshort, hsurrogate⟩ := admits_three.mp hx
    exact ⟨_, _, rest, .three ha hx (admits_inner.mp hy) hshort hsurrogate, rfl⟩
  · have hlead := lead_four a ha
    rw [decodeFrom, hlead] at h
    obtain ⟨x, rest, rfl, hx⟩ := exists_admits (bounded_of_lead hlead) h
    dsimp only at h
    rw [hx.decodeFrom_eq, if_neg (by simp)] at h
    obtain ⟨y, rest, rfl, hy⟩ := exists_admits (bounded_inner _ _) h
    rw [hy.decodeFrom_eq, if_neg (by simp)] at h
    obtain ⟨z, rest, rfl, hz⟩ := exists_admits (bounded_inner _ _) h
    obtain ⟨hx, hshort, hlast⟩ := admits_four.mp hx
    exact ⟨_, _, rest, .four ha hx (admits_inner.mp hy) (admits_inner.mp hz) hshort hlast, rfl⟩
  · rw [decodeFrom, hb] at h
    cases h

/-! ### Whole texts -/

/-- An encoding in front is read as what it encodes. -/
theorem decode_flatMap_append (cs : List Char) (bs : Bytes) :
    decode (cs.flatMap String.utf8EncodeChar ++ bs) =
      ⟨cs ++ (decode bs).chars, (decode bs).ending⟩ := by
  induction cs with
  | nil => rfl
  | cons c cs ih =>
    rw [List.flatMap_cons, List.append_assoc, (spells_utf8EncodeChar c).decode_append, ih,
      Char.ofNat_toNat]
    rfl

/-- Bytes are decoded to their end exactly if they are the encoding of what is decoded. -/
theorem decode_eq_whole_iff {bs : Bytes} {cs : List Char} :
    decode bs = ⟨cs, .whole⟩ ↔ bs = cs.flatMap String.utf8EncodeChar := by
  constructor
  · intro h
    -- the sequence in front goes, and what is left is shorter
    induction hlen : bs.length using Nat.strongRecOn generalizing bs cs with
    | _ len ih =>
      cases bs with
      | nil =>
        cases h
        rfl
      | cons b bs =>
        obtain ⟨n, word, rest, hword, heq⟩ := exists_spells h
        rw [heq, hword.decode_append] at h
        obtain ⟨rfl, hending⟩ := Decoded.mk.inj h
        have hshorter : rest.length < len := by
          have hpos := hword.length_pos
          rw [← hlen, heq, List.length_append]
          omega
        have hdecode : decode rest = ⟨(decode rest).chars, .whole⟩ := by rw [← hending]
        have hrest := ih rest.length hshorter hdecode rfl
        rw [heq, List.flatMap_cons, hword.utf8EncodeChar_eq, ← hrest]
  · rintro rfl
    have h := decode_flatMap_append cs []
    have hnil : decode [] = ⟨[], .whole⟩ := rfl
    rwa [hnil, List.append_nil, List.append_nil] at h

/-- A text is what its encoding is decoded to. -/
theorem decode_encode (s : String) : decode (encode s) = ⟨s.toList, .whole⟩ :=
  decode_eq_whole_iff.mpr rfl

/-- Different texts have different encodings. -/
theorem encode_injective {s t : String} (h : encode s = encode t) : s = t := by
  have hlist : (decode (encode s)).chars = (decode (encode t)).chars := by rw [h]
  rw [decode_encode, decode_encode] at hlist
  exact String.toList_injective hlist

/-- Bytes that are decoded to their end are the encoding of a text. -/
theorem exists_encode_of_whole {bs : Bytes} (h : (decode bs).ending = .whole) :
    ∃ s, bs = encode s := by
  refine ⟨String.ofList (decode bs).chars, ?_⟩
  rw [encode, String.toList_ofList]
  exact decode_eq_whole_iff.mp (by rw [← h])

/-! ### Line feeds -/

/-- The bytes of a longer sequence all lie above those of the short ones. -/
theorem Spells.le_toNat_of_mem {n : Nat} {bs : Bytes} (h : Spells n bs) (hn : 0x80 ≤ n) :
    ∀ b ∈ bs, 0x80 ≤ b.toNat := by
  have hbyte : ∀ m, 0x80 ≤ m → m < 0x100 → 0x80 ≤ (UInt8.ofNat m).toNat := by
    intro m hlow hhigh
    rw [UInt8.toNat_ofNat']
    omega
  cases h with
  | one ha => omega
  | two ha hx hshort =>
    simp only [List.forall_mem_cons]
    exact ⟨hbyte _ (by omega) (by omega), hbyte _ (by omega) (by omega), by simp⟩
  | three ha hx hy hshort hsurrogate =>
    simp only [List.forall_mem_cons]
    exact ⟨hbyte _ (by omega) (by omega), hbyte _ (by omega) (by omega),
      hbyte _ (by omega) (by omega), by simp⟩
  | four ha hx hy hz hshort hlast =>
    simp only [List.forall_mem_cons]
    exact ⟨hbyte _ (by omega) (by omega), hbyte _ (by omega) (by omega),
      hbyte _ (by omega) (by omega), hbyte _ (by omega) (by omega), by simp⟩

/-- A line feed is the only character with its byte in its encoding. -/
theorem mem_utf8EncodeChar_iff {c : Char} : 0x0A ∈ String.utf8EncodeChar c ↔ c = '\n' := by
  constructor
  · intro h
    have hspells := spells_utf8EncodeChar c
    by_cases hc : 0x80 ≤ c.toNat
    · exact absurd (hspells.le_toNat_of_mem hc _ h) (by decide)
    · have hascii : c.val.toNat ≤ 0x7F := Nat.le_of_lt_succ (Nat.lt_of_not_le hc)
      rw [String.utf8EncodeChar, if_pos hascii, List.mem_singleton] at h
      have hcode : 0x0A = c.val.toNat := by
        have hmod := congrArg UInt8.toNat h
        simp only [UInt8.toNat_ofNat', UInt8.reduceToNat] at hmod
        omega
      rw [← Char.ofNat_toNat c, Char.toNat, ← hcode]
  · rintro rfl
    decide

/-- Bytes with a line feed at their end never stop inside a character. -/
theorem ending_decodeFrom_snoc {u : Option Unfinished} (hu : ∀ v ∈ u, v.Bounded) (bs : Bytes) :
    (decodeFrom u (bs ++ [0x0A])).ending ≠ .cut := by
  induction bs generalizing u with
  | nil =>
    cases u with
    | none => decide
    | some v =>
      have hv : ¬ (v.low ≤ 0x0A ∧ 0x0A ≤ v.high) := by
        intro h
        exact absurd (UInt8.le_trans (hu v rfl).1 h.1) (by decide)
      rw [List.nil_append, decodeFrom, if_neg hv]
      simp
  | cons b bs ih =>
    cases u with
    | none =>
      rw [List.cons_append, decodeFrom]
      cases hb : lead b with
      | single c => exact ih (by simp)
      | opens v => exact ih (by simpa using bounded_of_lead hb)
      | refused => simp
    | some v =>
      rw [List.cons_append, decodeFrom]
      split
      · dsimp only
        split
        · exact ih (by simp)
        · exact ih (by simpa using bounded_inner _ _)
      · simp

end PocketShell.Text
