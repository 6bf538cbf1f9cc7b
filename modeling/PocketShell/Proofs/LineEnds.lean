import PocketShell.Proofs.ConsoleLines
import PocketShell.Proofs.FlushOrder
import PocketShell.Proofs.LineSpelling
import PocketShell.Proofs.WordsAndGaps
import PocketShell.Program

/-!
# Ends of lines in the input

A line of the input ends in a line feed, a carriage return, or both, and the last line needs no end.
Texts that differ in these ends only have the same effects: their reads are the same lines but for
a line feed at the end of the last, which is a blank and parts no words.

The other characters that end lines elsewhere, such as the vertical tab and the line separator, are
blanks as well: they part the words of one command.

Main statement: `Program.effects_of_line_ends`.
-/

namespace PocketShell

open Text (Bytes IsLine encode isBlank splitAfter words)

/-- Every read is the same as itself. -/
theorem Read.Alike.refl (read : Read) : Read.Alike read read := by
  cases read with
  | fails fault => exact .fails fault
  | line text =>
      by_cases htext : text = ""
      · rw [htext]
        exact .ended
      · exact .lines htext htext rfl

namespace Console

/-- A text with a line feed in place of every carriage return that has a line feed behind it,
together with that line feed. -/
def pairsJoined : List Char → List Char
  | '\r' :: '\n' :: cs => '\n' :: pairsJoined cs
  | c :: cs => c :: pairsJoined cs
  | [] => []

/-- A text with a line feed in place of every carriage return. -/
def returnsReplaced (cs : List Char) : List Char := cs.map fun c => if c = '\r' then '\n' else c

/-- A text with a line feed at its end, unless it is empty or has one there. -/
def feedAppended (cs : List Char) : List Char :=
  if cs = [] ∨ cs.getLast? = some '\n' then cs else cs ++ ['\n']

/-- A text in which every line, the last one too, ends in a line feed alone. -/
def feedsOnly (s : String) : List Char :=
  feedAppended (returnsReplaced (pairsJoined s.toList))

/-- What the console does with the ends of lines can be done in two steps. -/
theorem unifyEnds_eq (cs : List Char) : unifyEnds cs = returnsReplaced (pairsJoined cs) := by
  fun_induction unifyEnds cs with
  | case1 cs ih => simp [pairsJoined, returnsReplaced, ih]
  | case2 cs hcs ih =>
    have hpairs : pairsJoined ('\r' :: cs) = '\r' :: pairsJoined cs := by
      rw [pairsJoined]
      rintro ds - rfl
      exact hcs ds rfl
    rw [hpairs, ih]
    simp [returnsReplaced]
  | case3 c cs _ hc ih =>
    have hpairs : pairsJoined (c :: cs) = c :: pairsJoined cs := by
      rw [pairsJoined]
      rintro ds rfl -
      exact absurd rfl hc
    rw [hpairs, ih, returnsReplaced, returnsReplaced, List.map_cons, if_neg hc]
  | case4 => rfl

/-- A text that does not end in a line feed has a last line without one. -/
theorem exists_last_line {cs : List Char} (h : ¬ (cs = [] ∨ cs.getLast? = some '\n')) :
    ∃ (ls : List (List Char)) (last : List Char), (∀ l ∈ ls, IsLine (· == '\n') l) ∧
      (∀ c ∈ last, (c == '\n') = false) ∧ last ≠ [] ∧ cs = ls.flatten ++ last := by
  obtain ⟨ls, last, hls, hlast, rfl⟩ := Text.exists_isLine_flatten (· == '\n') cs
  refine ⟨ls, last, hls, hlast, ?_, rfl⟩
  rintro rfl
  rcases List.eq_nil_or_concat ls with rfl | ⟨before, l, rfl⟩
  · exact h (Or.inl rfl)
  · obtain ⟨body, c, rfl, -, hc⟩ := hls l (by simp)
    obtain rfl : c = '\n' := by simpa using hc
    exact h (Or.inr (by simp))

/-- To the loop, a last line without an end is the same as one with it. -/
theorem forall₂_alike_feedAppended (cs : List Char) :
    List.Forall₂ Read.Alike ((splitAfter (· == '\n') cs).map readOf)
      ((splitAfter (· == '\n') (feedAppended cs)).map readOf) := by
  by_cases h : cs = [] ∨ cs.getLast? = some '\n'
  · rw [feedAppended, if_pos h]
    exact List.forall₂_same.mpr fun read _ => .refl read
  · obtain ⟨ls, last, hls, hlast, hne, rfl⟩ := exists_last_line h
    have hended : IsLine (· == '\n') (last ++ ['\n']) := ⟨last, '\n', rfl, hlast, rfl⟩
    have hsplit := hended.splitAfter_append []
    rw [List.append_nil] at hsplit
    -- the lines are the same up to the last, which gets a blank at its end
    rw [feedAppended, if_neg h, List.append_assoc, Text.splitAfter_flatten_append hls,
      Text.splitAfter_flatten_append hls, Text.splitAfter_of_forall hlast hne, hsplit,
      List.map_append, List.map_append]
    apply List.rel_append (List.forall₂_same.mpr fun read _ => .refl read)
    have hwords := Text.words_append_feed (String.ofList last)
    refine .cons (.lines (by simpa using hne) (by simp) ?_) .nil
    rw [← hwords, String.ofList_append]

/-- So the reads of a text are the lines that it has when all of them end in line feeds. -/
theorem forall₂_alike_reads (s : String) :
    List.Forall₂ Read.Alike (reads (encode s))
      ((splitAfter (· == '\n') (feedsOnly s)).map readOf) := by
  rw [reads_encode, lines, unifyEnds_eq]
  exact forall₂_alike_feedAppended _

/-- A line without any end inside is one line, with a line feed at its end or without one. -/
theorem lines_of_endless {cs : List Char} (hne : cs ≠ []) (h : ∀ c ∈ cs, c ≠ '\n' ∧ c ≠ '\r') :
    lines cs = [cs] ∧ lines (cs ++ ['\n']) = [cs ++ ['\n']] := by
  have hunify := unifyEnds_append_of_forall fun c hc => (h c hc).2
  have hfeedless : ∀ c ∈ cs, (c == '\n') = false := fun c hc => by simpa using (h c hc).1
  have hplain : unifyEnds cs = cs := by simpa [unifyEnds] using hunify []
  have hended : unifyEnds (cs ++ ['\n']) = cs ++ ['\n'] := hunify ['\n']
  have hline : IsLine (· == '\n') (cs ++ ['\n']) := ⟨cs, '\n', rfl, hfeedless, rfl⟩
  constructor
  · rw [lines, hplain, Text.splitAfter_of_forall hfeedless hne]
  · have hsplit := hline.splitAfter_append []
    rw [List.append_nil] at hsplit
    rw [lines, hended, hsplit]
    rfl

/-- So it is read as it is, and with a line feed behind it before whatever stands there. -/
theorem reads_of_endless {line : String} (hne : line ≠ "")
    (h : ∀ c ∈ line.toList, c ≠ '\n' ∧ c ≠ '\r') (rest : String) :
    reads (encode line) = [.line line] ∧
      reads (encode (line ++ "\n" ++ rest)) = .line (line ++ "\n") :: reads (encode rest) := by
  have hlist : (line ++ "\n").toList = line.toList ++ ['\n'] := by simp
  obtain ⟨hplain, hended⟩ := lines_of_endless (by simpa using hne) h
  constructor
  · rw [reads_encode, hplain]
    simp [readOf]
  · rw [Trace.encode_append, reads_encode_append (by simp [hlist]), reads_encode, hlist, hended,
      ← hlist]
    simp [readOf]

end Console

namespace Trace

/-- The bytes that reach the output do not depend on the spelling of lines. -/
theorem Alike.terminalFrom_eq {t t' : Trace} (h : Alike t t') (waiting : String) :
    terminalFrom waiting t = terminalFrom waiting t' := by
  induction h generalizing waiting with
  | nil => rfl
  | @cons e _ _ _ he _ ih =>
      cases he with
      | executing hw => simp only [terminalFrom, ih]
      | same =>
          cases e with
          | child stream bytes => cases stream <;> simp only [terminalFrom, ih]
          | _ => simp only [terminalFrom, ih]

/-- Neither does what is seen on the diagnostics stream. -/
theorem Alike.diagnostics_eq {t t' : Trace} (h : Alike t t') (threshold : LogLevel) :
    t.diagnostics threshold = t'.diagnostics threshold := by
  induction h with
  | nil => rfl
  | cons he _ ih =>
      cases he with
      | executing hw => exact ih
      | same e =>
          simp only [diagnostics] at ih
          simp only [diagnostics, List.filterMap_cons, ih]

end Trace

namespace Program

variable {W : Type u}

/-- The effects of a program: its exit code, what reaches the output and the diagnostics, the
programs that it launches, and the world that it leaves. -/
structure Effects (W : Type u) where
  code? : Option Nat
  output : Bytes
  diagnostics : Bytes
  launches : List (String × List String)
  world : W

/-- The effects of a program that was started in a world. -/
def effects (before : W) (program : Program W) : Effects W where
  code? := program.code?
  output := program.output
  diagnostics := program.diagnostics
  launches := program.trace.launches
  world :=
    match program with
    | .ran _ _ talk => talk.shell.world
    | _ => before

/-- A program has the same effects on reads that are the same to the loop. -/
theorem effects_ran_of_alike (host : Host W) (handlers : Handlers) (before : W) (level : LogLevel)
    (startUp : Trace) (shows : Bool) (sh : Shell W) {reads reads' : List Read}
    (h : List.Forall₂ Read.Alike reads reads') :
    effects before (.ran level startUp (Loop.run host handlers shows sh reads)) =
      effects before (.ran level startUp (Loop.run host handlers shows sh reads')) := by
  obtain ⟨hresult, hshell, -, -, -, hevents⟩ := Loop.run_alike host handlers shows sh h
  have htrace : Trace.Alike (startUp ++ (Loop.run host handlers shows sh reads).events)
      (startUp ++ (Loop.run host handlers shows sh reads').events) :=
    (Trace.Alike.refl startUp).append hevents
  simp only [effects, Effects.mk.injEq]
  refine ⟨?_, ?_, ?_, ?_, ?_⟩
  · simp only [code?, hresult]
  · exact htrace.terminalFrom_eq ""
  · exact congrArg Diagnostic.transcript (htrace.diagnostics_eq level)
  · exact htrace.launches_eq
  · rw [hshell]

/-- What a program does with a text is what it does when all lines of the text end in line feeds. -/
theorem effects_start_encode (host : Host W) (before : W) (environment : Option String)
    (arguments : List String) {s t : String} (h : Console.feedsOnly s = Console.feedsOnly t) :
    (start host before environment arguments (encode s)).effects before =
      (start host before environment arguments (encode t)).effects before := by
  simp only [start]
  split
  · rfl
  · rfl
  · rfl
  · next shows level _ =>
      have hs := Console.forall₂_alike_reads s
      have ht := Console.forall₂_alike_reads t
      rw [h] at hs
      rw [effects_ran_of_alike host _ before level _ shows _ hs,
        effects_ran_of_alike host _ before level _ shows _ ht]

/-- Programs cannot tell the ends of lines in their input apart: texts that are the same in line
feeds have the same effects. No other character ends a command, but the five that end lines
elsewhere part its words. -/
theorem effects_of_line_ends (host : Host W) (before : W) (environment : Option String)
    (arguments : List String) {s t : String} (h : Console.feedsOnly s = Console.feedsOnly t) :
    (start host before environment arguments (encode s)).effects before =
      (start host before environment arguments (encode t)).effects before ∧
    ∀ c ∈ ['\x0b', '\x0c', '\u0085', '\u2028', '\u2029'], ∀ left right rest : String,
      (∀ d ∈ (left ++ right).toList, d ≠ '\n' ∧ d ≠ '\r') →
        let line := left ++ String.singleton c ++ right
        Console.reads (encode line) = [.line line] ∧
        Console.reads (encode (line ++ "\n" ++ rest)) =
          .line (line ++ "\n") :: Console.reads (encode rest) ∧
        words line = words left ++ words right ∧
        words (line ++ "\n") = words left ++ words right := by
  refine ⟨effects_start_encode host before environment arguments h, ?_⟩
  intro c hc left right rest hends line
  have hblank : isBlank c = true ∧ c ≠ '\n' ∧ c ≠ '\r' := by
    simp only [List.mem_cons, List.not_mem_nil, or_false] at hc
    rcases hc with rfl | rfl | rfl | rfl | rfl <;> decide
  have hlist : line.toList = left.toList ++ c :: right.toList := by simp [line]
  have hendless : ∀ d ∈ line.toList, d ≠ '\n' ∧ d ≠ '\r' := by
    intro d hd
    rw [hlist] at hd
    rcases List.mem_append.mp hd with hd | hd
    · exact hends d (by simp [hd])
    · rcases List.mem_cons.mp hd with rfl | hd
      · exact hblank.2
      · exact hends d (by simp [hd])
  have hne : line ≠ "" := by
    intro hempty
    rw [hempty] at hlist
    simp at hlist
  obtain ⟨hread, hfirst⟩ := Console.reads_of_endless hne hendless rest
  have hwords : words line = words left ++ words right :=
    Text.words_append_blank hblank.1 left right
  exact ⟨hread, hfirst, hwords, by rw [Text.words_append_feed, hwords]⟩

/-- All three ends of lines in a text, one of them missing at its end. -/
theorem effects_of_line_ends_of_removal :
    let s := "rm /a\r\r\nls\u2028\x0bx\n\ncd /b\rpwd"
    let t := "rm /a\n\nls\u2028\x0bx\r\rcd /b\r\npwd\r"
    Console.feedsOnly s = Console.feedsOnly t ∧
    (start Host.removing ["/a"] none [] (encode s)).effects ["/a"] =
      (start Host.removing ["/a"] none [] (encode t)).effects ["/a"] := by
  intro s t
  have h : Console.feedsOnly s = Console.feedsOnly t := by decide +kernel
  exact ⟨h, (effects_of_line_ends Host.removing ["/a"] none [] h).1⟩

end Program

end PocketShell
