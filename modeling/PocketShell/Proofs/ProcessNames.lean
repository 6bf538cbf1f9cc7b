import Mathlib.Data.List.DropRight
import PocketShell.Proofs.LaunchOutcomes
import PocketShell.Proofs.RecordLines
import PocketShell.Proofs.WordsAndGaps

/-!
# Names of processes

The system calls a process by the last part of the path that was executed. The path of a command
ends in its first word, so the name is made of characters of the word, and as none of these is
blank, none ends a line.

Main statement: `Host.NamesByPath.oneLine_of_launch`.

## Implementation notes

How processes are called is up to the system, so it is a hypothesis on the host here. It leaves out
hosts on which a program takes another name, of any characters, before it is asked for one. The
separators U+001C to U+001E part no words, so a name can have them; they end no line here.
-/

namespace PocketShell

open Text (IsWord OneLine isBlank isPrintable lineEnds)

/-- The characters of a path behind its last slash. -/
def lastPart (path : String) : List Char := path.toList.rtakeWhile (· != '/')

/-- What stands in front of a slash is not in the last part. -/
theorem lastPart_subset {s name : String} (h : s = "" ∨ s.toList.getLast? = some '/') :
    lastPart (s ++ name) ⊆ name.toList := by
  have hlast : lastPart (s ++ name) <:+ (s ++ name).toList := List.rtakeWhile_suffix _ _
  rcases h with rfl | hslash
  · rw [String.empty_append] at hlast ⊢
    exact hlast.subset
  · obtain ⟨directory, hdirectory⟩ := List.getLast?_eq_some_iff.mp hslash
    have hname : '/' :: name.toList <:+ (s ++ name).toList :=
      ⟨directory, by simp [hdirectory]⟩
    have hnone : '/' ∉ lastPart (s ++ name) := by
      intro hmem
      simpa using List.mem_rtakeWhile_imp hmem
    -- of two ends of one path the one without the slash is the shorter
    rcases List.suffix_or_suffix_of_suffix hlast hname with hshorter | hlonger
    · rcases List.suffix_cons_iff.mp hshorter with heq | hsuffix
      · exact absurd (heq ▸ List.mem_cons_self) hnone
      · exact hsuffix.subset
    · exact absurd (hlonger.subset List.mem_cons_self) hnone

/-- A path that a name stands for is the name, in a directory or alone. -/
theorem exists_eq_append_of_mem_candidates {searchPath : List String} {name path : String}
    (h : path ∈ candidates searchPath name) :
    ∃ s, path = s ++ name ∧ (s = "" ∨ s.toList.getLast? = some '/') := by
  rw [candidates] at h
  split at h
  · obtain rfl := List.mem_singleton.mp h
    exact ⟨"", String.empty_append.symm, Or.inl rfl⟩
  · obtain ⟨directory, -, rfl⟩ := List.mem_map.mp h
    rw [pathIn]
    split
    · next hends =>
        simp only [Bool.or_eq_true, String.isEmpty_iff, endsWith_slash_iff] at hends
        exact ⟨directory, rfl, hends⟩
    · exact ⟨directory ++ "/", rfl, Or.inr (by simp)⟩

/-- What a system does to a process when it executes a path: the last part of the path becomes the
name of the process. A long name is cut off, and what is left of a character at the cut is shown in
printable ones. -/
def Host.NamesByPath {W : Type u} (host : Host W) : Prop :=
  ∀ world path arguments run name, host.execute world path arguments = .ok run →
    run.processName = some name → ∀ c ∈ name.toList, c ∈ lastPart path ∨ isPrintable c = true

theorem Host.namesByPath_removing : removing.NamesByPath := by
  have hrm : lastPart "/bin/rm" = ['r', 'm'] := by decide +kernel
  intro world path arguments run name hrun hname c hc
  dsimp only [removing] at hrun
  split at hrun
  · next hpath =>
      obtain rfl := Except.ok.inj hrun
      obtain rfl := Option.some.inj hname
      rw [hpath, hrm]
      exact Or.inl hc
  · cases hrun

namespace Host.NamesByPath

variable {W : Type u} {host : Host W} {world : W} {name processName : String}
  {arguments : List String} {run : Run W}

/-- The name of the process of a command is made of the characters of its first word. -/
theorem mem_or_isPrintable_of_launch (h : host.NamesByPath)
    (hrun : launch host world name arguments = .ok run) (hname : run.processName = some processName)
    {c : Char} (hc : c ∈ processName.toList) : c ∈ name.toList ∨ isPrintable c = true := by
  obtain ⟨path, hpath, hexecute⟩ := exists_execute_of_launch hrun
  obtain ⟨s, rfl, hs⟩ := exists_eq_append_of_mem_candidates hpath
  have hlast := h world (s ++ name) (name :: arguments) run processName hexecute hname c hc
  exact hlast.imp_left fun hmem => lastPart_subset hs hmem

/-- A word ends no line, so the name stays on the line of its record. -/
theorem oneLine_of_launch (h : host.NamesByPath) (hword : IsWord name)
    (hrun : launch host world name arguments = .ok run)
    (hname : run.processName = some processName) : OneLine processName := by
  have hblank : lineEnds.all isBlank = true := by decide
  intro c hc hend
  rcases h.mem_or_isPrintable_of_launch hrun hname hc with hmem | hprintable
  · have hc := List.all_eq_true.mp hblank c hend
    rw [hword.not_blank c hmem] at hc
    cases hc
  · exact Text.not_mem_lineEnds_of_isPrintable hprintable hend

end Host.NamesByPath

end PocketShell
