import Mathlib.Data.List.Forall2
import Mathlib.Data.List.Infix
import PocketShell.Options

/-!
# How the levels can be spelled

A text names a level if its upper case is the name of the level. The upper case is that of all of
Unicode, in which letters of other scripts have their place and a character can come to several. It
still lets in little: a letter of a name can be written as it is, as the small letter, or for an I
as the small letter without its dot, and nothing else comes to it.

The tables of upper case decide this. Only three of their runs reach the capital letters of ASCII
(`caseRuns_reach`), and none of their expansions stands inside the name of a level
(`LogLevel.expansion_not_infix_name`), so a text is read letter by letter
(`flatMap_upperChars_eq_iff`).

Main statement: `LogLevel.named_exactly_by_spellings`.
-/

namespace PocketShell

namespace Text

/-- What a single character comes to in upper case. -/
def upperChars (c : Char) : List Char := (upperCodes c.toNat).map Char.ofNat

theorem toList_upper (s : String) : (upper s).toList = s.toList.flatMap upperChars :=
  String.toList_ofList

/-! ### The tables of upper case -/

/-- The expansions are longer than one character, and none is that of a letter of ASCII. -/
theorem caseExpansions_bounds : ∀ e ∈ caseExpansions, 0x7A < e.1 ∧ 1 < e.2.length := by
  decide +kernel

/-- The runs start with the small letters of ASCII, and only these, the dotless i and the long s
have a capital letter of ASCII as their upper case. -/
theorem caseRuns_reach : ∀ r ∈ caseRuns, 0x60 < r.first ∧
    (0x5A < r.first + r.shift ∨
      r ∈ [⟨0x61, 0x7A, 1, -32⟩, ⟨0x131, 0x131, 1, -232⟩, ⟨0x17F, 0x17F, 1, -300⟩]) := by
  decide +kernel

/-- Up to the last small letter of ASCII, only the small letters have another upper case. -/
theorem upperCodes_ascii {n : Nat} (h : n ≤ 0x7A) :
    upperCodes n = [if 0x60 < n then n - 0x20 else n] := by
  have hexpansion : caseExpansions.find? (·.1 == n) = none := by
    rw [List.find?_eq_none]
    intro e he
    have hbound := (caseExpansions_bounds e he).1
    simp only [beq_iff_eq]
    omega
  by_cases hsmall : 0x60 < n
  · have hrun : caseRuns.find? (·.holds n) = some ⟨0x61, 0x7A, 1, -32⟩ := by
      rw [caseRuns, List.find?_cons_of_pos]
      simp only [CaseRun.holds, Nat.mod_one, beq_self_eq_true, Bool.and_true, Bool.and_eq_true,
        decide_eq_true_eq]
      omega
    simp only [upperCodes, hexpansion, hrun, if_pos hsmall]
    congr 1
    omega
  · have hrun : caseRuns.find? (·.holds n) = none := by
      rw [List.find?_eq_none]
      intro r hr
      have hstart := (caseRuns_reach r hr).1
      simp only [CaseRun.holds, Bool.and_eq_true, decide_eq_true_eq]
      omega
    simp only [upperCodes, hexpansion, hrun, if_neg hsmall]

/-- The code points that come to a capital letter of ASCII and to nothing else. -/
theorem upperCodes_eq_singleton_iff {n d : Nat} (hlow : 0x41 ≤ d) (hhigh : d ≤ 0x5A) :
    upperCodes n = [d] ↔
      n = d ∨ n = d + 0x20 ∨ (d = 0x49 ∧ n = 0x131) ∨ (d = 0x53 ∧ n = 0x17F) := by
  constructor
  · intro h
    rw [upperCodes] at h
    split at h
    · next code codes hfind =>
        have hlong := (caseExpansions_bounds _ (List.mem_of_find?_eq_some hfind)).2
        simp [h] at hlong
    · split at h
      · next r hfind =>
          have hholds := List.find?_some hfind
          have hcode : (n + r.shift : Int).toNat = d := by simpa using h
          simp only [CaseRun.holds, Bool.and_eq_true, decide_eq_true_eq] at hholds
          obtain ⟨-, hfar | hnear⟩ := caseRuns_reach r (List.mem_of_find?_eq_some hfind)
          · omega
          · simp only [List.mem_cons, List.not_mem_nil, or_false] at hnear
            rcases hnear with rfl | rfl | rfl <;> dsimp only at hholds hcode <;> omega
      · left
        simpa using h
  · rintro (rfl | rfl | ⟨rfl, rfl⟩ | ⟨rfl, rfl⟩)
    · rw [upperCodes_ascii (by omega), if_neg (by omega)]
    · rw [upperCodes_ascii (by omega), if_pos (by omega), Nat.add_sub_cancel]
    · decide +kernel
    · decide +kernel

/-! ### Characters -/

/-- A code point that no character has passes for zero, so every other character has its own code
point alone. -/
theorem ofNat_eq_iff {n : Nat} {c : Char} (hc : c.toNat ≠ 0) : Char.ofNat n = c ↔ n = c.toNat := by
  constructor
  · rintro rfl
    by_cases hn : n.isValidChar
    · rw [Char.ofNat, dif_pos hn]
      rfl
    · rw [Char.ofNat, dif_neg hn] at hc
      exact absurd rfl hc
  · rintro rfl
    exact Char.ofNat_toNat c

theorem toNat_of_isUpper {c : Char} (h : c.isUpper = true) : 0x41 ≤ c.toNat ∧ c.toNat ≤ 0x5A :=
  of_decide_eq_true h

theorem toNat_toLower {c : Char} (h : c.isUpper = true) : c.toLower.toNat = c.toNat + 0x20 := by
  have hbound : c.val.toNat ≤ 0x5A := (toNat_of_isUpper h).2
  calc c.toLower.toNat
    _ = (c.val + 0x20).toNat := congrArg Char.toNat (dif_pos (of_decide_eq_true h))
    _ = (c.val.toNat + 0x20) % 2 ^ 32 := UInt32.toNat_add ..
    _ = c.val.toNat + 0x20 := Nat.mod_eq_of_lt (by omega)

/-- A character counts as a capital letter if it is that letter or the small one, and the small i
without its dot counts as an I too. -/
def CountsAs (c letter : Char) : Prop :=
  c = letter ∨ c = letter.toLower ∨ (letter = 'I' ∧ c = '\u0131')

instance (c letter : Char) : Decidable (CountsAs c letter) :=
  inferInstanceAs (Decidable (_ ∨ _ ∨ _ ∧ _))

/-- The upper case of a character is a capital letter exactly if it counts as one. The S is left
out, as the long s comes to it too. -/
theorem upperChars_eq_singleton_iff {c letter : Char} (hcapital : letter.isUpper = true)
    (hs : letter ≠ 'S') : upperChars c = [letter] ↔ CountsAs c letter := by
  obtain ⟨hlow, hhigh⟩ := toNat_of_isUpper hcapital
  have hlong : letter.toNat ≠ 0x53 := fun h => hs (Char.toNat_inj.mp h)
  have hcode (n : Nat) : Char.ofNat n = letter ↔ n = letter.toNat := ofNat_eq_iff (by omega)
  calc upperChars c = [letter]
    _ ↔ upperCodes c.toNat = [letter.toNat] := by
        simp only [upperChars, List.map_eq_singleton_iff, hcode, exists_eq_right]
    _ ↔ c.toNat = letter.toNat ∨ c.toNat = letter.toNat + 0x20 ∨
          (letter.toNat = 0x49 ∧ c.toNat = 0x131) ∨ (letter.toNat = 0x53 ∧ c.toNat = 0x17F) :=
        upperCodes_eq_singleton_iff hlow hhigh
    _ ↔ CountsAs c letter := by
        have hdotless : c = '\u0131' ↔ c.toNat = 0x131 := Char.toNat_inj.symm
        have hi : letter = 'I' ↔ letter.toNat = 0x49 := Char.toNat_inj.symm
        rw [CountsAs, hdotless, hi, ← Char.toNat_inj, ← Char.toNat_inj, toNat_toLower hcapital]
        simp only [hlong, false_and, or_false]

/-- A character has one character or one of the expansions as its upper case. -/
theorem upperChars_cases (c : Char) :
    (∃ d, upperChars c = [d]) ∨ ∃ e ∈ caseExpansions, upperChars c = e.2.map Char.ofNat := by
  rw [upperChars, upperCodes]
  split
  · next code codes hfind =>
      exact Or.inr ⟨(code, codes), List.mem_of_find?_eq_some hfind, rfl⟩
  · split
    · exact Or.inl ⟨_, rfl⟩
    · exact Or.inl ⟨_, rfl⟩

theorem upperChars_ne_nil (c : Char) : upperChars c ≠ [] := by
  rcases upperChars_cases c with ⟨d, hd⟩ | ⟨e, he, hc⟩
  · simp [hd]
  · have hlong := (caseExpansions_bounds e he).2
    rw [hc]
    simp only [ne_eq, List.map_eq_nil_iff]
    rintro hnil
    simp [hnil] at hlong

/-! ### Texts -/

/-- A text comes to a word of capital letters letter by letter, if no expansion stands inside the
word. -/
theorem flatMap_upperChars_eq_iff {cs letters : List Char}
    (hcapital : ∀ d ∈ letters, d.isUpper = true ∧ d ≠ 'S')
    (hwhole : ∀ e ∈ caseExpansions, ¬ e.2.map Char.ofNat <:+: letters) :
    cs.flatMap upperChars = letters ↔ List.Forall₂ CountsAs cs letters := by
  induction cs generalizing letters with
  | nil => rw [List.flatMap_nil, List.forall₂_nil_left_iff, eq_comm]
  | cons c cs ih =>
      rw [List.flatMap_cons]
      cases letters with
      | nil => simp [upperChars_ne_nil]
      | cons d ds =>
          obtain ⟨hd, hds⟩ := List.forall_mem_cons.mp hcapital
          have hlater := ih hds fun e he hinfix => hwhole e he (List.infix_cons hinfix)
          rw [List.forall₂_cons, ← upperChars_eq_singleton_iff hd.1 hd.2, ← hlater]
          constructor
          · intro h
            -- an expansion would stand at the front of the word
            rcases upperChars_cases c with ⟨x, hx⟩ | ⟨e, he, hc⟩
            · rw [hx, List.singleton_append, List.cons.injEq] at h
              obtain ⟨rfl, hrest⟩ := h
              exact ⟨hx, hrest⟩
            · have hinfix : e.2.map Char.ofNat <:+: d :: ds := by
                rw [← hc, ← h]
                exact (List.prefix_append _ _).isInfix
              exact absurd hinfix (hwhole e he)
          · rintro ⟨hc, hrest⟩
            rw [hc, hrest, List.singleton_append]

/-- No character that counts as a capital letter is blank. -/
theorem CountsAs.not_isBlank {c letter : Char} (h : CountsAs c letter)
    (hcapital : letter.isUpper = true) : isBlank c = false := by
  have hapart : ∀ r ∈ blankRanges, r.last < 0x41 ∨
      (0x7A < r.first ∧ (r.last < 0x131 ∨ 0x131 < r.first)) := by decide
  obtain ⟨hlow, hhigh⟩ := toNat_of_isUpper hcapital
  have hcode : c.toNat = letter.toNat ∨ c.toNat = letter.toNat + 0x20 ∨ c.toNat = 0x131 := by
    rcases h with rfl | rfl | ⟨-, rfl⟩
    · exact Or.inl rfl
    · exact Or.inr (Or.inl (toNat_toLower hcapital))
    · exact Or.inr (Or.inr rfl)
  rw [← Bool.not_eq_true, isBlank, inTable_iff]
  rintro ⟨r, hr, hfirst, hlast⟩
  have hrange := hapart r hr
  omega

/-- Every character of a text that counts as a word counts as one of its letters. -/
theorem exists_countsAs_of_mem {cs letters : List Char} (h : List.Forall₂ CountsAs cs letters)
    {c : Char} (hc : c ∈ cs) : ∃ d ∈ letters, CountsAs c d := by
  induction h with
  | nil => cases hc
  | @cons c' d cs ds hd later ih =>
      rcases List.mem_cons.mp hc with rfl | hc
      · exact ⟨d, List.mem_cons_self, hd⟩
      · obtain ⟨d', hd', hcounts⟩ := ih hc
        exact ⟨d', List.mem_cons_of_mem _ hd', hcounts⟩

end Text

namespace LogLevel

/-- A text names a level if it has as many characters as the name of the level, and each of them
counts as the letter in its place. -/
def Names (s : String) (l : LogLevel) : Prop :=
  List.Forall₂ Text.CountsAs s.toList l.name.toList

instance (s : String) (l : LogLevel) : Decidable (Names s l) :=
  inferInstanceAs (Decidable (List.Forall₂ _ _ _))

/-- The names are in capital letters, without an S. -/
theorem isUpper_name (l : LogLevel) : ∀ d ∈ l.name.toList, d.isUpper = true ∧ d ≠ 'S' := by
  have hall : (l.name.toList.all fun d => d.isUpper && d != 'S') = true := by cases l <;> decide
  simpa using hall

/-- No longer upper case stands in a name. -/
theorem expansion_not_infix_name (l : LogLevel) :
    ∀ e ∈ Text.caseExpansions, ¬ e.2.map Char.ofNat <:+: l.name.toList := by
  cases l <;> decide +kernel

/-- The level that a text is taken for is the one that it names. -/
theorem named?_eq_some_iff_names {s : String} {l : LogLevel} :
    named? s = some l ↔ Names s l := by
  rw [named?_eq_some_iff, ← String.toList_inj, Text.toList_upper, eq_comm]
  exact Text.flatMap_upperChars_eq_iff (isUpper_name l) (expansion_not_infix_name l)

/-- A text that names a level has only characters with one character as their upper case, and no
blank. -/
theorem Names.of_mem {s : String} {l : LogLevel} (h : Names s l) {c : Char} (hc : c ∈ s.toList) :
    (Text.upperChars c).length = 1 ∧ Text.isBlank c = false := by
  obtain ⟨d, hd, hcounts⟩ := Text.exists_countsAs_of_mem h hc
  obtain ⟨hcapital, hs⟩ := isUpper_name l d hd
  refine ⟨?_, hcounts.not_isBlank hcapital⟩
  rw [(Text.upperChars_eq_singleton_iff hcapital hs).mpr hcounts, List.length_singleton]

/-- A text is taken for a level exactly if it names it, and it names one level at most. A text that
has a blank in it, or a character with a longer upper case, names none. To set the level to a text
that names none is an error, which tells of the text in quotes. -/
theorem named_exactly_by_spellings (s : String) :
    (∀ l, named? s = some l ↔ Names s l) ∧
    (∀ l l', Names s l → Names s l' → l = l') ∧
    ((∃ c ∈ s.toList, 1 < (Text.upperChars c).length ∨ Text.isBlank c = true) →
      ∀ l, ¬ Names s l) ∧
    ((∀ l, ¬ Names s l) →
      named? s = none ∧
      ∀ r : Options.Reading, ∃ e, r.setLevel s = .error e ∧
        e.message = "argument --log-level: invalid log level: " ++ Text.quoted s) := by
  refine ⟨fun l => named?_eq_some_iff_names, ?_, ?_, ?_⟩
  · intro l l' h h'
    rw [← named?_eq_some_iff_names] at h h'
    exact Option.some.inj (h.symm.trans h')
  · rintro ⟨c, hc, hwrong⟩ l h
    obtain ⟨hlength, hblank⟩ := h.of_mem hc
    rcases hwrong with hlong | hwrong
    · omega
    · rw [hblank] at hwrong
      cases hwrong
  · intro h
    have hnone : named? s = none := by
      rw [Option.eq_none_iff_forall_ne_some]
      intro l hl
      exact h l (named?_eq_some_iff_names.mp hl)
    refine ⟨hnone, fun r => ⟨.noLevel s, ?_, ?_⟩⟩
    · rw [Options.Reading.setLevel, hnone]
    · exact (String.append_assoc ..).symm

/-- An I without its dot is taken for the letter. A ligature that would come to two letters and a
blank in front of a name are refused. -/
theorem named_exactly_by_spellings_of_dotless :
    (Names "\u0131NFo" .info ∧ named? "\u0131NFo" = some .info ∧
      ∀ l, Names "\u0131NFo" l → l = .info) ∧
    (Text.upperChars '\uFB00' = ['F', 'F'] ∧ ∀ l, ¬ Names "in\uFB00o" l) ∧
    (Text.isBlank ' ' = true ∧ named? " info" = none ∧
      ∀ r : Options.Reading, ∃ e, r.setLevel " info" = .error e ∧
        e.message = "argument --log-level: invalid log level: ' info'") := by
  have hinfo : Names "\u0131NFo" .info := by decide
  have hligature : Text.upperChars '\uFB00' = ['F', 'F'] := by decide +kernel
  have hblank : Text.isBlank ' ' = true := by decide
  obtain ⟨htaken, hone, -, -⟩ := named_exactly_by_spellings "\u0131NFo"
  obtain ⟨-, -, hwrong, -⟩ := named_exactly_by_spellings "in\uFB00o"
  obtain ⟨-, -, hwrong', hrefused⟩ := named_exactly_by_spellings " info"
  have hother : ∀ l, ¬ Names " info" l := hwrong' ⟨' ', by decide, Or.inr hblank⟩
  obtain ⟨hnone, hrefuses⟩ := hrefused hother
  refine ⟨⟨hinfo, (htaken .info).mpr hinfo, fun l hl => hone l .info hl hinfo⟩,
    ⟨hligature, hwrong ⟨'\uFB00', by decide, Or.inl ?_⟩⟩, hblank, hnone, fun r => ?_⟩
  · rw [hligature]
    decide
  · obtain ⟨e, he, hmessage⟩ := hrefuses r
    have hquoted : Text.quoted " info" = "' info'" := by decide +kernel
    refine ⟨e, he, ?_⟩
    rw [hmessage, hquoted]
    rfl

end LogLevel

end PocketShell
