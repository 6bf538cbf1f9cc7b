import PocketShell.Text.Words

/-!
# Words and gaps

A line is made of words with gaps around them: words have no blanks, gaps have nothing else, and a
gap between two words is not empty. `words` finds the words of a line in this sense, and no line is
made of words and gaps in two ways.

Main statement: `Text.words_eq_iff_spread`.

## Implementation notes

The gaps of a line are found character by character from its end. A blank goes to the first gap; any
other character goes to the first word if the gap in front of it is empty, and is a word of its own
otherwise. That what follows a word cannot go on it is `StartsNoWord`, on which
`words_word_append` depends.
-/

namespace PocketShell.Text

/-- A word has characters, and none of them is blank. -/
structure IsWord (w : String) : Prop where
  ne_empty : w ≠ ""
  not_blank : ∀ c ∈ w.toList, isBlank c = false

/-- A gap has nothing but blanks. -/
def AllBlank (g : String) : Prop := ∀ c ∈ g.toList, isBlank c = true

/-- A text that cannot go on a word in front of it: it is empty or starts with a blank. -/
def StartsNoWord (s : String) : Prop := ∀ c ∈ s.toList.head?, isBlank c = true

/-- Gaps that part words: one in front of every word and one behind the last, where only the first
and the last may be empty. -/
structure Parts (gaps ws : List String) : Prop where
  length_eq : gaps.length = ws.length + 1
  allBlank : ∀ g ∈ gaps, AllBlank g
  inner : ∀ g ∈ gaps.tail.dropLast, g ≠ ""

/-- The line of words and gaps, beginning with a gap. -/
def spread : (gaps ws : List String) → String
  | g :: gaps, w :: ws => g ++ w ++ spread gaps ws
  | gaps, _ => String.join gaps

/-- The characters with the White_Space property, one by one. -/
def blankCodes : List Nat :=
  [0x09, 0x0A, 0x0B, 0x0C, 0x0D, 0x20, 0x85, 0xA0, 0x1680, 0x2000, 0x2001, 0x2002, 0x2003, 0x2004,
   0x2005, 0x2006, 0x2007, 0x2008, 0x2009, 0x200A, 0x2028, 0x2029, 0x202F, 0x205F, 0x3000]

/-- The ranges of blanks hold these characters and no others. -/
theorem isBlank_iff (c : Char) : isBlank c = true ↔ c.toNat ∈ blankCodes := by
  simp only [isBlank, inTable_iff, blankRanges, blankCodes, List.mem_cons, List.not_mem_nil,
    or_false, exists_eq_or_imp, exists_eq_left]
  omega

/-- A blank parts the words before it from those behind it. -/
theorem runs_append_cons {c : Char} (h : isBlank c = true) (cs ds : List Char) :
    runs (cs ++ c :: ds) = runs cs ++ runs ds := by
  rw [runs, List.splitOnP_append_cons _ _ h, List.filter_append]
  rfl

theorem words_append_blank {c : Char} (h : isBlank c = true) (s t : String) :
    words (s ++ String.singleton c ++ t) = words s ++ words t := by
  have hlist : (s ++ String.singleton c ++ t).toList = s.toList ++ c :: t.toList := by simp
  rw [words, hlist, runs_append_cons h, List.map_append]
  rfl

/-- A line feed at the end of a line adds no word. -/
theorem words_append_feed (s : String) : words (s ++ "\n") = words s := by
  have hfeed : isBlank '\n' = true := by decide
  have hwords := words_append_blank hfeed s ""
  rwa [String.append_empty, show words "" = [] from rfl, List.append_nil] at hwords

/-- A gap in front adds no word. -/
theorem words_blank_append {g : String} (hg : AllBlank g) (s : String) :
    words (g ++ s) = words s := by
  have hruns : ∀ cs : List Char, (∀ c ∈ cs, isBlank c = true) →
      runs (cs ++ s.toList) = runs s.toList := by
    intro cs hcs
    induction cs with
    | nil => rfl
    | cons c cs ih =>
        obtain ⟨hc, hrest⟩ := List.forall_mem_cons.mp hcs
        rw [← ih hrest]
        exact runs_append_cons hc [] (cs ++ s.toList)
  rw [words, String.toList_append, hruns _ hg, words]

/-- So a gap alone has no word. -/
theorem words_of_allBlank {g : String} (hg : AllBlank g) : words g = [] := by
  have h := words_blank_append hg ""
  rwa [String.append_empty, show words "" = [] from rfl] at h

/-- A word is its own only word. -/
theorem words_of_isWord {w : String} (hw : IsWord w) : words w = [w] := by
  have hne : w.toList ≠ [] := by simpa using hw.ne_empty
  have hsplit : w.toList.splitOnP isBlank = [w.toList] := by
    apply List.splitOnP_eq_singleton
    intro c hc
    simp [hw.not_blank c hc]
  simp [words, runs, hsplit, hne]

/-- A word in front of a text that cannot go on it is the first word. -/
theorem words_word_append {w s : String} (hw : IsWord w) (hs : StartsNoWord s) :
    words (w ++ s) = w :: words s := by
  cases hcs : s.toList with
  | nil =>
      obtain rfl : s = "" := by simpa using hcs
      rw [String.append_empty, words_of_isWord hw]
      rfl
  | cons c cs =>
      have hc : isBlank c = true := hs c (by rw [hcs]; rfl)
      have hsplit : s = String.singleton c ++ String.ofList cs := by
        rw [← String.toList_inj, hcs]
        simp
      have hrest : words s = words (String.ofList cs) := by
        rw [hsplit]
        exact words_blank_append (by simpa [AllBlank] using hc) _
      rw [hrest]
      calc words (w ++ s)
        _ = words (w ++ String.singleton c ++ String.ofList cs) := by
            rw [hsplit, String.append_assoc]
        _ = words w ++ words (String.ofList cs) := words_append_blank hc w _
        _ = w :: words (String.ofList cs) := by
            rw [words_of_isWord hw]
            rfl

/-- A word and a space in front of a line are one more word. -/
theorem words_word_space {w : String} (hw : IsWord w) (s : String) :
    words (w ++ " " ++ s) = w :: words s := by
  have hspace : isBlank ' ' = true := by decide
  calc words (w ++ " " ++ s)
    _ = words w ++ words s := words_append_blank hspace w s
    _ = w :: words s := by
        rw [words_of_isWord hw]
        rfl

/-- Without words there is one gap, and it is the line. -/
theorem parts_nil_iff {gaps : List String} :
    Parts gaps [] ↔ ∃ g, gaps = [g] ∧ AllBlank g := by
  constructor
  · intro h
    obtain ⟨g, rfl⟩ := List.length_eq_one_iff.mp h.length_eq
    exact ⟨g, rfl, h.allBlank g (by simp)⟩
  · rintro ⟨g, rfl, hg⟩
    exact ⟨rfl, by simpa using hg, by simp⟩

/-- A word takes a gap in front of it. The gap behind it is the first of the others, which is empty
only if no word follows. -/
theorem parts_cons_iff {gaps ws : List String} {w : String} :
    Parts gaps (w :: ws) ↔ ∃ g next rest, gaps = g :: next :: rest ∧ AllBlank g ∧
      Parts (next :: rest) ws ∧ (ws ≠ [] → next ≠ "") := by
  constructor
  · intro h
    obtain ⟨g, others, rfl⟩ := List.exists_cons_of_length_eq_add_one h.length_eq
    obtain ⟨next, rest, rfl⟩ :=
      List.exists_cons_of_length_eq_add_one (Nat.succ.inj h.length_eq)
    obtain ⟨hg, hothers⟩ := List.forall_mem_cons.mp h.allBlank
    have hinner := h.inner
    have hlength := h.length_eq
    rw [List.tail_cons] at hinner
    refine ⟨g, next, rest, rfl, hg, ⟨Nat.succ.inj hlength, hothers, ?_⟩, ?_⟩
    · intro d hd
      cases rest with
      | nil => simp at hd
      | cons e rest => exact hinner d (by simpa using Or.inr hd)
    · intro hws
      cases rest with
      | nil =>
          have hnil : ws.length = 0 := by simpa using hlength.symm
          exact absurd (List.length_eq_zero_iff.mp hnil) hws
      | cons e rest => exact hinner next (by simp)
  · rintro ⟨g, next, rest, rfl, hg, h, hnext⟩
    refine ⟨by simpa using h.length_eq, List.forall_mem_cons.mpr ⟨hg, h.allBlank⟩, ?_⟩
    intro d hd
    cases rest with
    | nil => simp at hd
    | cons e rest =>
        have hws : ws ≠ [] := by
          rintro rfl
          simpa using h.length_eq
        rcases List.mem_cons.mp (by simpa using hd) with rfl | hd
        · exact hnext hws
        · exact h.inner d (by simpa using hd)

theorem spread_nil (g : String) : spread [g] [] = g := by
  simp [spread]

theorem spread_cons (g : String) (gaps : List String) (w : String) (ws : List String) :
    spread (g :: gaps) (w :: ws) = g ++ w ++ spread gaps ws := rfl

/-- The first gap stands in front. -/
theorem spread_append (s g : String) (gaps ws : List String) :
    spread ((s ++ g) :: gaps) ws = s ++ spread (g :: gaps) ws := by
  cases ws with
  | nil => simp [spread, String.append_assoc]
  | cons w ws => simp only [spread_cons, String.append_assoc]

/-- Words behind a gap that is not empty do not go on a word in front of it. -/
theorem Parts.startsNoWord_spread {next : String} {rest ws : List String}
    (h : Parts (next :: rest) ws) (hnext : ws ≠ [] → next ≠ "") :
    StartsNoWord (spread (next :: rest) ws) := by
  have hblank : ∀ c ∈ next.toList.head?, isBlank c = true := fun c hc =>
    h.allBlank next (by simp) c (List.mem_of_mem_head? hc)
  cases ws with
  | nil =>
      obtain ⟨g, heq, hg⟩ := parts_nil_iff.mp h
      rw [heq, spread_nil]
      obtain ⟨rfl, -⟩ := List.cons.inj heq
      exact hblank
  | cons w ws =>
      have hne : next.toList ≠ [] := by simpa using hnext (by simp)
      obtain ⟨d, ds, hds⟩ := List.exists_cons_of_ne_nil hne
      rw [hds] at hblank
      intro c hc
      rw [spread_cons, String.append_assoc, String.toList_append, hds] at hc
      exact hblank c hc

/-- The words that a line is made of are found in it. -/
theorem words_spread {gaps ws : List String} (h : Parts gaps ws) (hws : ∀ w ∈ ws, IsWord w) :
    words (spread gaps ws) = ws := by
  induction ws generalizing gaps with
  | nil =>
      obtain ⟨g, rfl, hg⟩ := parts_nil_iff.mp h
      rw [spread_nil, words_of_allBlank hg]
  | cons w ws ih =>
      obtain ⟨g, next, rest, rfl, hg, hrest, hnext⟩ := parts_cons_iff.mp h
      obtain ⟨hw, hlater⟩ := List.forall_mem_cons.mp hws
      rw [spread_cons, String.append_assoc, words_blank_append hg,
        words_word_append hw (hrest.startsNoWord_spread hnext), ih hrest hlater]

/-- The first gap can be any other. -/
theorem Parts.replace_first {g g' : String} {gaps ws : List String} (h : Parts (g :: gaps) ws)
    (hg : AllBlank g') : Parts (g' :: gaps) ws :=
  ⟨h.length_eq, List.forall_mem_cons.mpr ⟨hg, (List.forall_mem_cons.mp h.allBlank).2⟩, h.inner⟩

/-- The first word can be any other. -/
theorem Parts.replace_word {w : String} (w' : String) {gaps ws : List String}
    (h : Parts gaps (w :: ws)) : Parts gaps (w' :: ws) :=
  ⟨h.length_eq, h.allBlank, h.inner⟩

/-- Every line is made of words and gaps. -/
theorem exists_spread (line : String) :
    ∃ gaps ws, (∀ w ∈ ws, IsWord w) ∧ Parts gaps ws ∧ line = spread gaps ws := by
  obtain ⟨cs, rfl⟩ : ∃ cs, line = String.ofList cs := ⟨line.toList, by simp⟩
  induction cs with
  | nil => exact ⟨[""], [], by simp, parts_nil_iff.mpr ⟨"", rfl, by simp [AllBlank]⟩, rfl⟩
  | cons c cs ih =>
      obtain ⟨gaps, ws, hws, hparts, heq⟩ := ih
      obtain ⟨g, gaps, rfl⟩ := List.exists_cons_of_length_eq_add_one hparts.length_eq
      have hline : String.ofList (c :: cs) = String.singleton c ++ spread (g :: gaps) ws := by
        rw [← heq, ← String.toList_inj]
        simp
      have hfirst := List.forall_mem_cons.mp hparts.allBlank
      by_cases hc : isBlank c = true
      · refine ⟨(String.singleton c ++ g) :: gaps, ws, hws, hparts.replace_first ?_, ?_⟩
        · intro d hd
          rcases (by simpa using hd : d = c ∨ d ∈ g.toList) with rfl | hd
          · exact hc
          · exact hfirst.1 d hd
        · rw [hline, spread_append]
      · have hc : isBlank c = false := by simpa using hc
        have hword : IsWord (String.singleton c) := ⟨by simp, by simpa using hc⟩
        by_cases hnew : ws ≠ [] → g ≠ ""
        · refine ⟨"" :: g :: gaps, String.singleton c :: ws, List.forall_mem_cons.mpr ⟨hword, hws⟩,
            parts_cons_iff.mpr ⟨"", g, gaps, rfl, by simp [AllBlank], hparts, hnew⟩, ?_⟩
          rw [hline, spread_cons, String.empty_append]
        · obtain ⟨hne, hg⟩ := Classical.not_imp.mp hnew
          obtain rfl : g = "" := by simpa using hg
          obtain ⟨w, ws, rfl⟩ := List.exists_cons_of_ne_nil hne
          obtain ⟨hw, hlater⟩ := List.forall_mem_cons.mp hws
          refine ⟨"" :: gaps, (String.singleton c ++ w) :: ws,
            List.forall_mem_cons.mpr ⟨⟨by simp, ?_⟩, hlater⟩, hparts.replace_word _, ?_⟩
          · intro d hd
            rcases (by simpa using hd : d = c ∨ d ∈ w.toList) with rfl | hd
            · exact hc
            · exact hw.not_blank d hd
          · rw [hline, spread_cons, spread_cons]
            simp only [String.empty_append, String.append_assoc]

/-- What is found in a line are words. -/
theorem isWord_of_mem_words {line w : String} (h : w ∈ words line) : IsWord w := by
  obtain ⟨gaps, ws, hws, hparts, rfl⟩ := exists_spread line
  rw [words_spread hparts hws] at h
  exact hws w h

/-- Behind a gap and a word, the gap is where the blanks in front end. -/
theorem gap_eq_of_append_eq {g g' w s s' : String} (hg : AllBlank g) (hg' : AllBlank g')
    (hw : IsWord w) (h : g ++ w ++ s = g' ++ w ++ s') : g = g' ∧ s = s' := by
  have hblanks : ∀ {g : String} (s : String), AllBlank g →
      (g ++ w ++ s).toList.takeWhile isBlank = g.toList := by
    intro g s hg
    obtain ⟨c, cs, hcs⟩ := List.exists_cons_of_ne_nil (by simpa using hw.ne_empty : w.toList ≠ [])
    have hc : isBlank c = false := hw.not_blank c (by simp [hcs])
    rw [String.toList_append, String.toList_append, List.append_assoc,
      List.takeWhile_append_of_pos hg, hcs]
    simp [hc]
  have hgap : g = g' := by
    rw [← String.toList_inj, ← hblanks s hg, ← hblanks s' hg', h]
  subst hgap
  refine ⟨rfl, ?_⟩
  rw [← String.toList_inj]
  simpa using congrArg String.toList h

/-- A line has its words in one way only. -/
theorem gaps_eq_of_spread_eq {gaps gaps' ws : List String} (h : Parts gaps ws)
    (h' : Parts gaps' ws) (hws : ∀ w ∈ ws, IsWord w) (heq : spread gaps ws = spread gaps' ws) :
    gaps = gaps' := by
  induction ws generalizing gaps gaps' with
  | nil =>
      obtain ⟨g, rfl, -⟩ := parts_nil_iff.mp h
      obtain ⟨g', rfl, -⟩ := parts_nil_iff.mp h'
      rw [spread_nil, spread_nil] at heq
      rw [heq]
  | cons w ws ih =>
      obtain ⟨g, next, rest, rfl, hg, hrest, -⟩ := parts_cons_iff.mp h
      obtain ⟨g', next', rest', rfl, hg', hrest', -⟩ := parts_cons_iff.mp h'
      obtain ⟨hw, hlater⟩ := List.forall_mem_cons.mp hws
      obtain ⟨rfl, hspread⟩ := gap_eq_of_append_eq hg hg' hw heq
      rw [ih hrest hrest' hlater hspread]

/-- The words of a line are the words that it is made of: a list is that of the words exactly if it
has only words, and gaps part them in the line, which they do in one way. Blank are exactly the 25
characters with the White_Space property. -/
theorem words_eq_iff_spread :
    (∀ (line : String) (ws : List String), words line = ws ↔
      (∀ w ∈ ws, IsWord w) ∧ ∃ gaps, Parts gaps ws ∧ line = spread gaps ws) ∧
    (∀ gaps gaps' ws, Parts gaps ws → Parts gaps' ws → (∀ w ∈ ws, IsWord w) →
      spread gaps ws = spread gaps' ws → gaps = gaps') ∧
    (∀ gaps ws, Parts gaps ws → (∀ w ∈ ws, IsWord w) → words (spread gaps ws) = ws) ∧
    blankCodes.length = 25 ∧ (∀ c, isBlank c = true ↔ c.toNat ∈ blankCodes) ∧
    ∀ c ∈ ['\x1c', '\x1d', '\x1e', '\x1f', '\x00', '\u200B', '\uFEFF', '\'', '"'],
      isBlank c = false := by
  refine ⟨?_, fun gaps gaps' ws => gaps_eq_of_spread_eq, fun gaps ws => words_spread, rfl,
    isBlank_iff, ?_⟩
  · intro line ws
    constructor
    · rintro rfl
      obtain ⟨gaps, ws, hws, hparts, rfl⟩ := exists_spread line
      rw [words_spread hparts hws]
      exact ⟨hws, gaps, hparts, rfl⟩
    · rintro ⟨hws, gaps, hparts, rfl⟩
      exact words_spread hparts hws
  · intro c hc
    simp only [List.mem_cons, List.not_mem_nil, or_false] at hc
    rcases hc with rfl | rfl | rfl | rfl | rfl | rfl | rfl | rfl | rfl <;> decide

/-- A line with three kinds of blanks, in which separator controls and quotes go on their words. -/
theorem words_eq_iff_spread_of_mixed_blanks :
    let line := "\t\u3000ec\x1cho\u2028 \"a\x0b"
    let gaps := ["\t\u3000", "\u2028 ", "\x0b"]
    Parts gaps ["ec\x1cho", "\"a"] ∧ (∀ w ∈ ["ec\x1cho", "\"a"], IsWord w) ∧
    words line = ["ec\x1cho", "\"a"] ∧
    ∀ gaps', Parts gaps' ["ec\x1cho", "\"a"] → line = spread gaps' ["ec\x1cho", "\"a"] →
      gaps' = gaps := by
  intro line gaps
  obtain ⟨-, hunique, hfound, -⟩ := words_eq_iff_spread
  have hparts : Parts gaps ["ec\x1cho", "\"a"] :=
    ⟨rfl, by simp [gaps, AllBlank, isBlank_iff, blankCodes], by simp [gaps]⟩
  have hwords : ∀ w ∈ ["ec\x1cho", "\"a"], IsWord w := by
    intro w hw
    have hall : (["ec\x1cho", "\"a"].all fun w => w.toList.all (!isBlank ·)) = true := by
      decide +kernel
    refine ⟨?_, by simpa using List.all_eq_true.mp hall w hw⟩
    rintro rfl
    simp at hw
  have hline : line = spread gaps ["ec\x1cho", "\"a"] := by decide +kernel
  refine ⟨hparts, hwords, ?_, ?_⟩
  · rw [hline]
    exact hfound _ _ hparts hwords
  · intro gaps' hparts' heq
    exact hunique _ _ _ hparts' hparts hwords (heq.symm.trans hline)

end PocketShell.Text
