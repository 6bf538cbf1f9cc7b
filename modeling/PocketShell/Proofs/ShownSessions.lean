import PocketShell.Proofs.RecordLines
import PocketShell.Session

/-!
# What is shown of a session

A session is shown with its two fields in quotes. The first quotation ends where its quote is closed
and not where a field imitates what stands behind it, so the fields can be told from what is shown,
and this from what stands behind it. What is shown is printable, so it stays on one line and does
nothing to a terminal.

Main statement: `Session.shown_tells_fields`.
-/

namespace PocketShell

open Text (Printable isPrintable printable_append_iff printable_ofList printable_quoted)

namespace Text

/-- The control characters. -/
def IsControl (c : Char) : Prop := c.toNat < 0x20 ∨ (0x7F ≤ c.toNat ∧ c.toNat ≤ 0x9F)

/-- The characters at which a text is broken into lines: the feeds and returns, the separators among
the controls, the next line, and the separators of lines and of paragraphs. -/
def lineBreaks : List Char :=
  ['\n', '\x0b', '\x0c', '\r', '\x1c', '\x1d', '\x1e', '\x85', '\u2028', '\u2029']

/-- No control character is printable. -/
theorem not_isControl_of_isPrintable {c : Char} (h : isPrintable c = true) : ¬ IsControl c := by
  rw [isPrintable, inTable_iff] at h
  obtain ⟨r, hr, hfirst, hlast⟩ := h
  have havoids := printableRanges_avoid r hr
  rw [IsControl]
  omega

/-- No line break is printable. -/
theorem not_mem_lineBreaks_of_isPrintable {c : Char} (h : isPrintable c = true) :
    c ∉ lineBreaks := by
  have hnone : (lineBreaks.all fun b => !isPrintable b) = true := by decide +kernel
  intro hc
  have hbreak := List.all_eq_true.mp hnone c hc
  simp [h] at hbreak

end Text

namespace Session

/-- A session can be told from what is shown of it, and from what stands behind it. -/
theorem shown_append_inj {s t : Session} {x y : String} (h : s.shown ++ x = t.shown ++ y) :
    s = t ∧ x = y := by
  dsimp only [shown] at h
  simp only [String.append_assoc, String.append_right_inj] at h
  obtain ⟨hdirectory, hrest⟩ := Text.quoted_append_inj h
  rw [String.append_right_inj] at hrest
  obtain ⟨hidentity, hend⟩ := Text.quoted_append_inj hrest
  rw [String.append_right_inj] at hend
  cases s
  cases t
  cases hdirectory
  cases hidentity
  exact ⟨rfl, hend⟩

/-- Whatever the fields are, what is shown of them is printable. -/
theorem printable_shown (s : Session) : Printable s.shown := by
  dsimp only [shown]
  simp only [printable_append_iff, printable_quoted, and_true]
  exact ⟨⟨printable_ofList rfl, printable_ofList rfl⟩, printable_ofList rfl⟩

/-- Two sessions are shown alike exactly if they have the same directory and the same name of the
user, whatever characters these have, and what is shown has no line break and no control character
in it. -/
theorem shown_tells_fields (directory identity directory' identity' : String) :
    ((Session.mk directory identity).shown = (Session.mk directory' identity').shown ↔
      directory = directory' ∧ identity = identity') ∧
    ∀ c ∈ (Session.mk directory identity).shown.toList,
      isPrintable c = true ∧ ¬ Text.IsControl c ∧ c ∉ Text.lineBreaks := by
  refine ⟨⟨?_, ?_⟩, ?_⟩
  · intro h
    have hsame : Session.mk directory identity = Session.mk directory' identity' :=
      (shown_append_inj (congrArg (· ++ "") h)).1
    simpa using hsame
  · rintro ⟨rfl, rfl⟩
    rfl
  · intro c hc
    have hprintable := printable_shown _ c hc
    exact ⟨hprintable, Text.not_isControl_of_isPrintable hprintable,
      Text.not_mem_lineBreaks_of_isPrintable hprintable⟩

/-- A directory that imitates the rest of what is shown. -/
example : (Session.mk "a', identity='b" "c\n\"").shown =
    "Session(working_directory=\"a', identity='b\", identity='c\\n\"')" := by decide +kernel

end Session

end PocketShell
