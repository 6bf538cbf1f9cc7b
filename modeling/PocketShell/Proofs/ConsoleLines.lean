import PocketShell.Console
import PocketShell.Proofs.Decoding

/-!
# The reads of an input

An input arrives cut behind the line feeds of its bytes, and every arrival is decoded, unified and
cut again. For an input that is a text none of this can be seen: its reads are the lines of the
text as a whole. The cut between arrivals does no harm, as the byte of a line feed stands in the
encoding of no other character, and no end of a line reaches across a line feed.

Main statements: `reads_encode_eq_map`, for an input that is a text; `reads_undecodable_line`, for a
text with a line behind it that is none; `exists_reads_eq`, for any input.
-/

namespace PocketShell.Console

open Text (Bytes IsLine decode encode exists_isLine_flatten splitAfter)

/-! ### Ends of lines -/

/-- A carriage return without a line feed behind it is an end of a line by itself. -/
theorem unifyEnds_return {cs : List Char} (h : cs.head? ≠ some '\n') :
    unifyEnds ('\r' :: cs) = '\n' :: unifyEnds cs := by
  cases cs with
  | nil => rfl
  | cons c cs =>
    rw [unifyEnds]
    rintro ds ⟨⟩
    exact h rfl

/-- Every other character stays. -/
theorem unifyEnds_cons {c : Char} (h : c ≠ '\r') (cs : List Char) :
    unifyEnds (c :: cs) = c :: unifyEnds cs := by
  rw [unifyEnds]
  · rintro ds rfl
    exact absurd rfl h
  · exact h

/-- Characters other than carriage returns stay in front of whatever stands behind them. -/
theorem unifyEnds_append_of_forall {cs : List Char} (h : ∀ c ∈ cs, c ≠ '\r') (ds : List Char) :
    unifyEnds (cs ++ ds) = cs ++ unifyEnds ds := by
  induction cs with
  | nil => rfl
  | cons c cs ih =>
    have hc := h c List.mem_cons_self
    have hcs := ih fun d hd => h d (List.mem_cons_of_mem _ hd)
    rw [List.cons_append, unifyEnds_cons hc, hcs, List.cons_append]

/-- The ends of lines behind a line feed are what they are without what stands before them, and
the line feed stays. -/
theorem unifyEnds_append_cons (cs ds : List Char) :
    unifyEnds (cs ++ '\n' :: ds) = unifyEnds (cs ++ ['\n']) ++ unifyEnds ds ∧
      (unifyEnds (cs ++ ['\n'])).getLast? = some '\n' := by
  fun_induction unifyEnds cs with
  | case1 cs ih =>
    obtain ⟨happend, hlast⟩ := ih
    simp [unifyEnds, happend, List.getLast?_cons, hlast]
  | case2 cs hcs ih =>
    obtain ⟨happend, hlast⟩ := ih
    cases cs with
    | nil => simp [unifyEnds]
    | cons c cs =>
      have hc : c ≠ '\n' := by
        rintro rfl
        exact hcs cs rfl
      have hreturn : ∀ es, unifyEnds ('\r' :: c :: es) = '\n' :: unifyEnds (c :: es) :=
        fun es => unifyEnds_return (by simpa using hc)
      rw [List.cons_append] at happend hlast
      simp [hreturn, happend, List.getLast?_cons, hlast]
  | case3 c cs _ hc ih =>
    obtain ⟨happend, hlast⟩ := ih
    simp [unifyEnds_cons hc, happend, List.getLast?_cons, hlast]
  | case4 => simp [unifyEnds_cons, unifyEnds]

/-- The lines behind a line feed are what they are without what stands before them. -/
theorem lines_append {cs : List Char} (h : ∀ c ∈ cs.getLast?, c = '\n') (ds : List Char) :
    lines (cs ++ ds) = lines cs ++ lines ds := by
  rcases List.eq_nil_or_concat cs with rfl | ⟨cs, c, rfl⟩
  · rfl
  · obtain rfl : c = '\n' := h c (by simp)
    obtain ⟨happend, hlast⟩ := unifyEnds_append_cons cs ds
    rw [List.concat_eq_append, List.append_assoc, List.singleton_append, lines, happend,
      Text.splitAfter_append_of_getLast? (by simp [hlast])]
    rfl

theorem getLast?_of_isLine {cs : List Char} (h : IsLine (· == '\n') cs) :
    ∀ c ∈ cs.getLast?, c = '\n' := by
  obtain ⟨body, c, rfl, -, hc⟩ := h
  simpa using hc

/-- So the lines of a text can be found arrival by arrival. -/
theorem lines_flatten_append {ls : List (List Char)} (h : ∀ l ∈ ls, IsLine (· == '\n') l)
    (ds : List Char) : lines (ls.flatten ++ ds) = ls.flatMap lines ++ lines ds := by
  induction ls with
  | nil => rfl
  | cons l ls ih =>
    have hl := getLast?_of_isLine (h l List.mem_cons_self)
    have hls := ih fun k hk => h k (List.mem_cons_of_mem _ hk)
    rw [List.flatten_cons, List.append_assoc, lines_append hl, hls, List.flatMap_cons,
      List.append_assoc]

/-- No line is empty. -/
theorem ofList_ne_empty_of_mem_lines {l cs : List Char} (h : l ∈ lines cs) :
    String.ofList l ≠ "" := by
  simpa using Text.ne_nil_of_mem_splitAfter h

/-! ### Arrivals -/

/-- The bytes of some characters. -/
abbrev bytesOf (cs : List Char) : Bytes := cs.flatMap String.utf8EncodeChar

/-- Without a line feed in the text there is none in its bytes. -/
theorem forall_ne_bytesOf {cs : List Char} (h : ∀ c ∈ cs, (c == '\n') = false) :
    ∀ b ∈ bytesOf cs, (b == 0x0A) = false := by
  intro b hb
  obtain ⟨c, hc, hbc⟩ := List.mem_flatMap.mp hb
  simp only [beq_eq_false_iff_ne]
  rintro rfl
  have hfeed := h c hc
  rw [Text.mem_utf8EncodeChar_iff.mp hbc] at hfeed
  cases hfeed

/-- The bytes of a line are a line of bytes. -/
theorem isLine_bytesOf {l : List Char} (h : IsLine (· == '\n') l) :
    IsLine (· == 0x0A) (bytesOf l) := by
  obtain ⟨body, c, rfl, hbody, hc⟩ := h
  obtain rfl : c = '\n' := by simpa using hc
  refine ⟨bytesOf body, 0x0A, ?_, forall_ne_bytesOf hbody, rfl⟩
  rw [bytesOf, List.flatMap_append]
  rfl

/-- Arrivals that are texts give their lines. -/
theorem readsOf_append (ls : List (List Char)) (arrivals : List Bytes) :
    readsOf (ls.map bytesOf ++ arrivals) = (ls.flatMap lines).map readOf ++ readsOf arrivals := by
  induction ls with
  | nil => rfl
  | cons l ls ih =>
    have hl : decode (bytesOf l) = ⟨l, .whole⟩ := Text.decode_eq_whole_iff.mpr rfl
    simp only [List.map_cons, List.cons_append, readsOf, hl, ih, List.flatMap_cons,
      List.map_append, List.append_assoc]

/-- Lines in front are read line by line, and what follows them is read by itself. -/
theorem reads_flatten_append {ls : List (List Char)} (h : ∀ l ∈ ls, IsLine (· == '\n') l)
    (input : Bytes) :
    reads (bytesOf ls.flatten ++ input) = (lines ls.flatten).map readOf ++ reads input := by
  have hbytes : bytesOf ls.flatten = (ls.map bytesOf).flatten := by
    rw [bytesOf, List.flatMap_def, List.map_flatten, List.flatten_flatten, List.map_map]
    rfl
  have hmarks : ∀ b ∈ ls.map bytesOf, IsLine (· == 0x0A) b := by
    intro b hb
    obtain ⟨l, hl, rfl⟩ := List.mem_map.mp hb
    exact isLine_bytesOf (h l hl)
  have hlines : lines ls.flatten = ls.flatMap lines := by
    simpa [lines, unifyEnds, splitAfter] using lines_flatten_append h []
  rw [reads, arrivals, hbytes, Text.splitAfter_flatten_append hmarks, readsOf_append, hlines]
  rfl

/-- What stands behind the last line feed arrives as a whole. -/
theorem reads_bytesOf {last : List Char} (h : ∀ c ∈ last, (c == '\n') = false) :
    reads (bytesOf last) = (lines last).map readOf := by
  by_cases hempty : last = []
  · subst hempty
    rfl
  · have hne : bytesOf last ≠ [] := by
      intro hnil
      have hwhole : decode (bytesOf last) = ⟨last, .whole⟩ := Text.decode_eq_whole_iff.mpr rfl
      rw [hnil] at hwhole
      exact hempty (congrArg Text.Decoded.chars hwhole).symm
    rw [reads, arrivals, Text.splitAfter_of_forall (forall_ne_bytesOf h) hne]
    simpa [readsOf] using readsOf_append [last] []

/-- The reads of a text are its lines. -/
theorem reads_encode (s : String) : reads (encode s) = (lines s.toList).map readOf := by
  obtain ⟨ls, last, hls, hlast, hs⟩ := exists_isLine_flatten (· == '\n') s.toList
  have hbytes : encode s = bytesOf ls.flatten ++ bytesOf last := by
    rw [encode, hs, List.flatMap_append]
  have hlines : lines s.toList = lines ls.flatten ++ lines last := by
    have hnil := lines_flatten_append hls []
    rw [List.append_nil] at hnil
    rw [hs, lines_flatten_append hls, hnil]
    simp [lines, unifyEnds, splitAfter]
  rw [hbytes, reads_flatten_append hls, reads_bytesOf hlast, hlines, List.map_append]

/-- The lines of a text as texts, each with its end. -/
def textLines (s : String) : List String := (lines s.toList).map String.ofList

theorem ne_empty_of_mem_textLines {s line : String} (h : line ∈ textLines s) : line ≠ "" := by
  obtain ⟨l, hl, rfl⟩ := List.mem_map.mp h
  exact ofList_ne_empty_of_mem_lines hl

theorem reads_encode_eq_map (s : String) : reads (encode s) = (textLines s).map .line := by
  rw [reads_encode, textLines, List.map_map]
  rfl

/-- Behind a text that ends in a line feed, an input is read as it is by itself. -/
theorem reads_encode_append {s : String} (h : ∀ c ∈ s.toList.getLast?, c = '\n')
    (input : Bytes) : reads (encode s ++ input) = reads (encode s) ++ reads input := by
  obtain ⟨ls, hls, hs⟩ := Text.exists_flatten_of_getLast? (p := (· == '\n')) (by simpa using h)
  rw [reads_encode, encode, hs, reads_flatten_append hls]

/-! ### Input that is no text -/

/-- A line of bytes that is no text does not merely stop too early. -/
theorem ending_decode_of_isLine {line : Bytes} (h : IsLine (· == 0x0A) line)
    (hbad : ∀ s, encode s ≠ line) : (decode line).ending = .broken := by
  obtain ⟨body, b, rfl, -, hb⟩ := h
  obtain rfl : b = 0x0A := by simpa using hb
  cases hending : (decode (body ++ [0x0A])).ending with
  | whole =>
    obtain ⟨s, hs⟩ := Text.exists_encode_of_whole hending
    exact absurd hs.symm (hbad s)
  | cut => exact absurd hending (Text.ending_decodeFrom_snoc (by simp) body)
  | broken => rfl

/-- Behind a text that ends in a line feed, a line that is no text fails to be read, and nothing
behind it is read at all. -/
theorem reads_undecodable_line {s : String} (h : ∀ c ∈ s.toList.getLast?, c = '\n')
    {line : Bytes} (hline : IsLine (· == 0x0A) line) (hbad : ∀ s, encode s ≠ line)
    (rest : Bytes) :
    reads (encode s ++ line ++ rest) = reads (encode s) ++ [.fails undecodable] := by
  have hbroken := ending_decode_of_isLine hline hbad
  rw [List.append_assoc, reads_encode_append h]
  congr 1
  rw [reads, arrivals, hline.splitAfter_append, readsOf]
  generalize decode line = d at hbroken
  obtain ⟨cs, ending⟩ := d
  subst hbroken
  rfl

/-- Every input is read line by line until it ends or fails to be a text. -/
theorem exists_reads_eq (input : Bytes) :
    ∃ (texts : List String) (tail : List Read), reads input = texts.map .line ++ tail ∧
      (∀ text ∈ texts, text ≠ "") ∧ (tail = [] ∨ tail = [.fails undecodable]) := by
  simp only [reads]
  generalize arrivals input = bs
  induction bs with
  | nil => exact ⟨[], [], rfl, by simp, Or.inl rfl⟩
  | cons arrival rest ih =>
    have hne : ∀ (cs : List Char) (ls : List (List Char)), ls ⊆ lines cs →
        ∀ text ∈ ls.map String.ofList, text ≠ "" := by
      intro cs ls hsub text htext
      obtain ⟨l, hl, rfl⟩ := List.mem_map.mp htext
      exact ofList_ne_empty_of_mem_lines (hsub hl)
    obtain ⟨texts, tail, hrest, htexts, htail⟩ := ih
    rcases hd : decode arrival with ⟨cs, _ | _ | _⟩
    · refine ⟨(lines cs).map String.ofList ++ texts, tail, ?_, ?_, htail⟩
      · simp [readsOf, hd, hrest, Function.comp_def, readOf]
      · intro text htext
        rcases List.mem_append.mp htext with htext | htext
        · exact hne cs (lines cs) (fun _ hl => hl) text htext
        · exact htexts text htext
    · refine ⟨((lines (withoutOpenEnd cs)).filter isEnded).map String.ofList,
        [.fails undecodable], ?_, ?_, Or.inr rfl⟩
      · simp [readsOf, hd, Function.comp_def, readOf]
      · exact hne _ _ fun _ hl => (List.mem_filter.mp hl).1
    · exact ⟨[], [.fails undecodable], by simp [readsOf, hd], by simp, Or.inr rfl⟩

end PocketShell.Console
