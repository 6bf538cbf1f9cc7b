import PocketShell.Text.Quoted

/-!
# Quotations are read back

A quotation can be told from what stands behind it, and the text that it quotes can be told from
the quotation: `readEscape` gives the first character back and leaves the rest, and no escape begins
with the quote that ends the quotation. Everything in a quotation is printable, so no text can break
the line in which it is quoted.

Main statements: `quotedChars_append_inj` and `isPrintable_of_mem_quotedChars`.
-/

namespace PocketShell.Text

/-- Two lists that are spelled element by element, each up to a mark with which no spelling begins,
are the same if what is read is, and so is what stands behind the marks. This needs that the
spelling of an element can be told from what stands behind it. -/
theorem flatMap_append_cons_inj {spell : α → List β} {mark : β}
    (hspell : ∀ a b s t, spell a ++ s = spell b ++ t → a = b ∧ s = t)
    (hmark : ∀ a s t, spell a ++ s ≠ mark :: t) {as bs : List α} {s t : List β}
    (h : as.flatMap spell ++ mark :: s = bs.flatMap spell ++ mark :: t) : as = bs ∧ s = t := by
  induction as generalizing bs with
  | nil =>
      cases bs with
      | nil => exact ⟨rfl, (List.cons.inj h).2⟩
      | cons b bs =>
          rw [List.flatMap_cons, List.append_assoc] at h
          exact absurd h.symm (hmark b _ s)
  | cons a as ih =>
      rw [List.flatMap_cons, List.append_assoc] at h
      cases bs with
      | nil => exact absurd h (hmark a _ t)
      | cons b bs =>
          rw [List.flatMap_cons, List.append_assoc] at h
          obtain ⟨rfl, hrest⟩ := hspell a b _ _ h
          obtain ⟨rfl, hst⟩ := ih hrest
          exact ⟨rfl, hst⟩

/-! ### Hexadecimal digits -/

/-- The value of a hexadecimal digit. -/
def hexDigitValue (c : Char) : Nat := if c.isDigit then c.toNat - 0x30 else c.toNat - 0x57

/-- The number that hexadecimal digits stand for. -/
def hexValue (cs : List Char) : Nat := cs.foldl (fun n c => 16 * n + hexDigitValue c) 0

theorem hexDigitValue_digitChar : ∀ n < 16, hexDigitValue (Nat.digitChar n) = n := by decide

/-- The digits of a number stand for what fits into their width. -/
theorem hexValue_hexDigits (width n : Nat) :
    hexValue (hexDigits width n) = n % Nat.pow 16 width := by
  induction width generalizing n with
  | zero => simp [hexDigits, hexValue, Nat.pow, Nat.mod_one]
  | succ width ih =>
      have hdigit := hexDigitValue_digitChar (n % 16) (Nat.mod_lt _ (by decide))
      calc hexValue (hexDigits (width + 1) n)
        _ = 16 * hexValue (hexDigits width (n / 16)) + n % 16 := by
            simp [hexDigits, hexValue, hdigit]
        _ = n % 16 + 16 * (n / 16 % Nat.pow 16 width) := by rw [ih, Nat.add_comm]
        _ = n % (16 * Nat.pow 16 width) := Nat.mod_mul.symm
        _ = n % Nat.pow 16 (width + 1) := by rw [Nat.mul_comm]; rfl

/-! ### Escapes -/

/-- The quotes that can stand around a text. -/
def IsQuote (quote : Char) : Prop := quote = '\'' ∨ quote = '"'

theorem isQuote_quoteFor (cs : List Char) : IsQuote (quoteFor cs) := by
  unfold quoteFor
  split
  · exact Or.inr rfl
  · exact Or.inl rfl

/-- The letters behind a backslash that stand for control characters. -/
def controlLetters : List (Char × Char) := [('n', '\n'), ('r', '\r'), ('t', '\t')]

/-- The letters behind a backslash that stand in front of hexadecimal digits, with how many digits
these are. -/
def numericLetters : List (Char × Nat) := [('x', 2), ('u', 4), ('U', 8)]

/-- The four ways in which a character stands between quotes. -/
inductive Escapes (quote c : Char) : List Char → Prop
  | marked (h : c = quote ∨ c = '\\') : Escapes quote c ['\\', c]
  | control {letter} (h : (letter, c) ∈ controlLetters) : Escapes quote c ['\\', letter]
  | plain (hq : c ≠ quote) (hb : c ≠ '\\') (hp : isPrintable c = true) : Escapes quote c [c]
  | numeric {letter width} (h : (letter, width) ∈ numericLetters)
      (hfits : c.toNat < Nat.pow 16 width) :
      Escapes quote c ('\\' :: letter :: hexDigits width c.toNat)

/-- A numeric escape has room for its character. -/
theorem escapes_numericEscape (quote c : Char) : Escapes quote c (numericEscape c.toNat) := by
  have hchar : c.toNat < Nat.pow 16 8 := by
    have hvalid := c.valid
    have hroom : Nat.pow 16 8 = 0x100000000 := rfl
    simp only [UInt32.isValidChar, Nat.isValidChar] at hvalid
    simp only [Char.toNat, hroom]
    omega
  unfold numericEscape
  split
  · next hsmall => exact .numeric (by simp [numericLetters]) hsmall
  · split
    · next hmiddle => exact .numeric (by simp [numericLetters]) hmiddle
    · exact .numeric (by simp [numericLetters]) hchar

theorem escapes_escape (quote c : Char) : Escapes quote c (escape quote c) := by
  by_cases hmarked : c = quote ∨ c = '\\'
  · rw [escape, if_pos hmarked]
    exact .marked hmarked
  rw [escape, if_neg hmarked]
  by_cases hfeed : c = '\n'
  · rw [if_pos hfeed]
    exact .control (by simp [controlLetters, hfeed])
  rw [if_neg hfeed]
  by_cases hreturn : c = '\r'
  · rw [if_pos hreturn]
    exact .control (by simp [controlLetters, hreturn])
  rw [if_neg hreturn]
  by_cases htab : c = '\t'
  · rw [if_pos htab]
    exact .control (by simp [controlLetters, htab])
  rw [if_neg htab]
  by_cases hprintable : isPrintable c = true
  · rw [if_pos hprintable]
    exact .plain (fun h => hmarked (Or.inl h)) (fun h => hmarked (Or.inr h)) hprintable
  · rw [if_neg hprintable]
    exact escapes_numericEscape quote c

/-- Reads the first character of a quoted text back, and leaves what stands behind it. A letter
behind a backslash stands for a control character or begins a numeric escape, and every other
character there stands for itself. -/
def readEscape : List Char → Option (Char × List Char)
  | '\\' :: c :: rest =>
    match numericLetters.lookup c with
    | some width => some (Char.ofNat (hexValue (rest.take width)), rest.drop width)
    | none => some ((controlLetters.lookup c).getD c, rest)
  | c :: rest => some (c, rest)
  | [] => none

/-- Every escape is read back, and what stands behind it is left. -/
theorem readEscape_escape {quote : Char} (hquote : IsQuote quote) (c : Char) (rest : List Char) :
    readEscape (escape quote c ++ rest) = some (c, rest) := by
  have hform := escapes_escape quote c
  generalize escape quote c = cs at hform
  cases hform with
  | marked h =>
      rcases h with rfl | rfl
      · rcases hquote with rfl | rfl <;> rfl
      · rfl
  | control h =>
      simp only [controlLetters, List.mem_cons, Prod.mk.injEq, List.not_mem_nil, or_false] at h
      rcases h with ⟨rfl, rfl⟩ | ⟨rfl, rfl⟩ | ⟨rfl, rfl⟩ <;> rfl
  | plain hq hb hp => simp [readEscape, hb]
  | @numeric letter width h hfits =>
      have hletter : numericLetters.lookup letter = some width := by
        simp only [numericLetters, List.mem_cons, Prod.mk.injEq, List.not_mem_nil, or_false] at h
        rcases h with ⟨rfl, rfl⟩ | ⟨rfl, rfl⟩ | ⟨rfl, rfl⟩ <;> rfl
      have hlength := length_hexDigits width c.toNat
      have hvalue : hexValue (hexDigits width c.toNat) = c.toNat := by
        rw [hexValue_hexDigits, Nat.mod_eq_of_lt hfits]
      simp [readEscape, hletter, List.take_left' hlength, List.drop_left' hlength, hvalue]

/-- So an escape can be told from what stands behind it. -/
theorem escape_append_inj {quote : Char} (hquote : IsQuote quote) {c d : Char}
    {s t : List Char} (h : escape quote c ++ s = escape quote d ++ t) : c = d ∧ s = t := by
  have hread := congrArg readEscape h
  rw [readEscape_escape hquote, readEscape_escape hquote] at hread
  simpa using hread

/-- No escape begins with the quote. -/
theorem escape_append_ne {quote : Char} (hquote : IsQuote quote) (c : Char)
    (s t : List Char) : escape quote c ++ s ≠ quote :: t := by
  have hbackslash : '\\' ≠ quote := by rcases hquote with rfl | rfl <;> decide
  have hform := escapes_escape quote c
  generalize escape quote c = cs at hform
  cases hform with
  | marked h => simp [hbackslash]
  | control h => simp [hbackslash]
  | plain hq hb hp => simp [hq]
  | numeric h hfits => simp [hbackslash]

/-- A quotation can be told from what stands behind it, and the text from the quotation. -/
theorem quotedChars_append_inj {cs ds s t : List Char}
    (h : quotedChars cs ++ s = quotedChars ds ++ t) : cs = ds ∧ s = t := by
  simp only [quotedChars, List.cons_append, List.append_assoc, List.nil_append,
    List.cons.injEq] at h
  obtain ⟨hquote, htext⟩ := h
  rw [hquote] at htext
  have hq := isQuote_quoteFor ds
  exact flatMap_append_cons_inj (fun _ _ _ _ => escape_append_inj hq) (escape_append_ne hq) htext

/-! ### Printable characters -/

/-- The visible part of ASCII, with the space, is printable. -/
theorem isPrintable_of_ascii {c : Char} (hlow : 0x20 ≤ c.toNat) (hhigh : c.toNat ≤ 0x7E) :
    isPrintable c = true := by
  rw [isPrintable, inTable_iff]
  exact ⟨⟨0x20, 0x7E⟩, List.mem_cons_self, hlow, hhigh⟩

theorem isPrintable_of_isDigit {c : Char} (h : c.isDigit = true) : isPrintable c = true := by
  simp only [Char.isDigit, Bool.and_eq_true, decide_eq_true_eq] at h
  obtain ⟨hzero, hnine⟩ := h
  have hlow : 0x30 ≤ c.toNat := hzero
  have hhigh : c.toNat ≤ 0x39 := hnine
  exact isPrintable_of_ascii (by omega) (by omega)

theorem isPrintable_of_isQuote {quote : Char} (h : IsQuote quote) : isPrintable quote = true := by
  rcases h with rfl | rfl <;> exact isPrintable_of_ascii (by decide) (by decide)

theorem isPrintable_of_mem_hexDigits {width n : Nat} {c : Char} (h : c ∈ hexDigits width n) :
    isPrintable c = true := by
  have hdigits : ∀ n < 16, isPrintable (Nat.digitChar n) = true := by decide +kernel
  induction width generalizing n with
  | zero => simp [hexDigits] at h
  | succ width ih =>
      rcases List.mem_append.mp h with h | h
      · exact ih h
      · rw [List.mem_singleton.mp h]
        exact hdigits _ (Nat.mod_lt _ (by decide))

/-- An escape is made of printable characters. -/
theorem isPrintable_of_mem_escape {quote c d : Char} (hquote : IsQuote quote)
    (h : d ∈ escape quote c) : isPrintable d = true := by
  have hbackslash : isPrintable '\\' = true := isPrintable_of_ascii (by decide) (by decide)
  have hcontrol : ∀ p ∈ controlLetters, isPrintable p.1 = true := by decide +kernel
  have hnumeric : ∀ p ∈ numericLetters, isPrintable p.1 = true := by decide +kernel
  have hform := escapes_escape quote c
  generalize escape quote c = cs at h hform
  cases hform with
  | marked hc =>
      rcases List.mem_cons.mp h with rfl | h
      · exact hbackslash
      · rw [List.mem_singleton.mp h]
        rcases hc with rfl | rfl
        · exact isPrintable_of_isQuote hquote
        · exact hbackslash
  | control hletter =>
      rcases List.mem_cons.mp h with rfl | h
      · exact hbackslash
      · rw [List.mem_singleton.mp h]
        exact hcontrol _ hletter
  | plain hq hb hp => rwa [List.mem_singleton.mp h]
  | numeric hletter hfits =>
      rcases List.mem_cons.mp h with rfl | h
      · exact hbackslash
      · rcases List.mem_cons.mp h with rfl | h
        · exact hnumeric _ hletter
        · exact isPrintable_of_mem_hexDigits h

/-- A quotation is made of printable characters. -/
theorem isPrintable_of_mem_quotedChars {cs : List Char} {c : Char} (h : c ∈ quotedChars cs) :
    isPrintable c = true := by
  have hquote := isQuote_quoteFor cs
  simp only [quotedChars, List.cons_append, List.mem_cons, List.mem_append, List.mem_flatMap,
    List.not_mem_nil, or_false] at h
  rcases h with rfl | ⟨d, -, hd⟩ | rfl
  · exact isPrintable_of_isQuote hquote
  · exact isPrintable_of_mem_escape hquote hd
  · exact isPrintable_of_isQuote hquote

end PocketShell.Text
