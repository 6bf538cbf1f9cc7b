import PocketShell.Proofs.ConsoleLines
import PocketShell.Proofs.Quotations
import PocketShell.Trace

/-!
# Lines of the log

Whatever the words are that a record quotes, it is printable. The one text in it that comes from
outside and is not quoted is the name of a process. A record of level `debug` can be told from its
line: what it reports is between fixed words, in a quotation or in digits, and no other record has
the same line.

Main statements: `Record.exists_body`, `Record.eq_of_line_eq`, and for a whole log
`Diagnostic.transcript_of_records`.
-/

namespace PocketShell

open Text (Bytes IsLine encode isPrintable quoted quotedChars splitAfter)

namespace Text

/-- Texts of printable characters. -/
def Printable (s : String) : Prop := ∀ c ∈ s.toList, isPrintable c = true

instance (s : String) : Decidable (Printable s) :=
  decidable_of_iff (s.toList.all isPrintable = true) List.all_eq_true

theorem printable_ofList {cs : List Char} (h : cs.all isPrintable = true) :
    Printable (String.ofList cs) := by
  intro c hc
  rw [String.toList_ofList] at hc
  exact List.all_eq_true.mp h c hc

@[simp] theorem printable_append_iff {s t : String} :
    Printable (s ++ t) ↔ Printable s ∧ Printable t := by
  simp [Printable, or_imp, forall_and]

@[simp] theorem printable_quoted (s : String) : Printable (quoted s) := by
  intro c hc
  rw [quoted, String.toList_ofList] at hc
  exact isPrintable_of_mem_quotedChars hc

/-- A number is shown in digits. -/
theorem isDigit_of_mem_toString {n : Nat} {c : Char} (h : c ∈ (toString n).toList) :
    c.isDigit = true := by
  rw [Nat.toString_eq_ofList_toDigits, String.toList_ofList] at h
  exact Nat.isDigit_of_mem_toDigits (by decide) (by decide) h

/-- A number can be told from its digits. -/
theorem toString_nat_injective {m n : Nat} (h : toString m = toString n) : m = n := by
  rw [Nat.toString_eq_ofList_toDigits, Nat.toString_eq_ofList_toDigits] at h
  have hvalue := congrArg (fun s : String => Nat.ofDigitChars 10 s.toList 0) h
  simpa using hvalue

/-- So can a number with a sign. -/
theorem toString_int_injective {i j : Int} (h : toString i = toString j) : i = j := by
  have hsign : ∀ m n : Nat, toString m ≠ "-" ++ toString n := by
    intro m n heq
    have hdigit : Char.isDigit '-' = true := isDigit_of_mem_toString (n := m) (by simp [heq])
    cases hdigit
  cases i with
  | ofNat m =>
      cases j with
      | ofNat n => exact congrArg Int.ofNat (toString_nat_injective h)
      | negSucc n => exact absurd h (hsign m (n + 1))
  | negSucc m =>
      cases j with
      | ofNat n => exact absurd h.symm (hsign n (m + 1))
      | negSucc n =>
          have hnumbers := toString_nat_injective ((String.append_right_inj "-").mp h)
          exact congrArg Int.negSucc (Nat.succ.inj hnumbers)

@[simp] theorem printable_toString_nat (n : Nat) : Printable (toString n) := by
  intro c hc
  exact isPrintable_of_isDigit (isDigit_of_mem_toString hc)

@[simp] theorem printable_toString_int (i : Int) : Printable (toString i) := by
  cases i with
  | ofNat n => exact printable_toString_nat n
  | negSucc n =>
      have hsign : Printable "-" := printable_ofList rfl
      exact printable_append_iff.mpr ⟨hsign, printable_toString_nat (n + 1)⟩

/-- The characters that end a line wherever they stand: feeds, the return, the next line, and the
separators of lines and of paragraphs. -/
def lineEnds : List Char := ['\n', '\x0b', '\x0c', '\r', '\x85', '\u2028', '\u2029']

/-- Texts that stay on their line. -/
def OneLine (s : String) : Prop := ∀ c ∈ s.toList, c ∉ lineEnds

/-- No printable character ends a line. -/
theorem not_mem_lineEnds_of_isPrintable {c : Char} (h : isPrintable c = true) : c ∉ lineEnds := by
  have hnone : (lineEnds.all fun c => !isPrintable c) = true := by decide +kernel
  intro hc
  have hend := List.all_eq_true.mp hnone c hc
  simp [h] at hend

/-- A text without a line feed is one line with a line feed behind it. -/
theorem isLine_encode_append_feed {s : String} (h : '\n' ∉ s.toList) :
    IsLine (· == 0x0A) (encode (s ++ "\n")) := by
  have hline : IsLine (· == '\n') (s ++ "\n").toList := by
    refine ⟨s.toList, '\n', by simp, ?_, rfl⟩
    intro c hc
    simp only [beq_eq_false_iff_ne]
    rintro rfl
    exact h hc
  exact Console.isLine_bytesOf hline

/-- A quotation inside a text can be told from what stands behind it. -/
theorem quoted_append_inj {s t x y : String} (h : quoted s ++ x = quoted t ++ y) :
    s = t ∧ x = y := by
  have hlists := congrArg String.toList h
  simp only [String.toList_append, quoted, String.toList_ofList] at hlists
  obtain ⟨hst, hxy⟩ := quotedChars_append_inj hlists
  exact ⟨String.toList_inj.mp hst, String.toList_inj.mp hxy⟩

end Text

open Text (Printable printable_append_iff printable_ofList printable_quoted printable_toString_int
  printable_toString_nat)

theorem Errno.printable_wordings : ∀ p ∈ wordings, Printable p.2 := by
  simp only [wordings, List.forall_mem_cons, List.not_mem_nil, false_implies, implies_true,
    and_true]
  repeat' apply And.intro
  all_goals exact printable_ofList rfl

/-- The system words its errors in printable characters. -/
theorem Errno.printable_message (e : Errno) : Printable e.message := by
  rw [Errno.message]
  cases hwording : wordings.lookup e.number with
  | none =>
      rw [Option.getD_none, printable_append_iff]
      exact ⟨printable_ofList rfl, printable_toString_nat _⟩
  | some wording =>
      obtain ⟨before, after, heq, -⟩ := List.lookup_eq_some_iff.mp hwording
      exact printable_wordings (e.number, wording) (by simp [heq])

namespace Record

/-- Why a program was not launched is said in printable characters. -/
@[simp] theorem printable_reason (name : String) (e : LaunchError) : Printable (reason name e) := by
  cases e with
  | zeroCharacter =>
      rw [reason]
      exact printable_ofList rfl
  | refused e =>
      simp only [reason, printable_append_iff, printable_quoted, printable_toString_nat,
        Errno.printable_message, and_true]
      exact ⟨⟨printable_ofList rfl, printable_ofList rfl⟩, printable_ofList rfl⟩

/-- The text of a record is printable, if it names no process and the home and the name of the user
are printable. -/
theorem printable_message {r : Record}
    (hstart : ∀ home identity, r = .started home identity → Printable home ∧ Printable identity)
    (hspawned : ∀ name, r ≠ .spawned (some name)) : Printable r.message := by
  cases r with
  | started home identity =>
      obtain ⟨hhome, hidentity⟩ := hstart home identity rfl
      dsimp only [message]
      simp only [printable_append_iff, hhome, hidentity, and_true]
      exact ⟨printable_ofList rfl, printable_ofList rfl⟩
  | dispatched name isBuiltin =>
      dsimp only [message]
      simp only [printable_append_iff, printable_quoted, and_true]
      have hkind : Printable (if isBuiltin then "builtin" else "external") := by
        cases isBuiltin <;> exact printable_ofList rfl
      exact ⟨⟨printable_ofList rfl, printable_ofList rfl⟩, hkind⟩
  | notLaunched name e =>
      dsimp only [message]
      simp only [printable_append_iff, printable_quoted, printable_reason, and_true]
      exact ⟨printable_ofList rfl, printable_ofList rfl⟩
  | spawned processName =>
      cases processName with
      | none => exact printable_append_iff.mpr ⟨printable_ofList rfl, printable_ofList rfl⟩
      | some name => exact absurd rfl (hspawned name)
  | exited status =>
      dsimp only [message]
      simp only [printable_append_iff, printable_toString_int, and_true]
      exact printable_ofList rfl
  | unexpected | readFailed | ended =>
      dsimp only [message]
      exact printable_ofList rfl

/-- Whatever is not printable in the text of a record stands in the name of a process. -/
theorem isPrintable_or_mem_name {r : Record}
    (hstart : ∀ home identity, r = .started home identity → Printable home ∧ Printable identity)
    {c : Char} (hc : c ∈ r.message.toList) :
    isPrintable c = true ∨ ∃ name, r = .spawned (some name) ∧ c ∈ name.toList := by
  by_cases hspawned : ∃ name, r = .spawned (some name)
  · obtain ⟨name, rfl⟩ := hspawned
    have hopening : Printable ("spawned pid <pid>" ++ " (") :=
      printable_append_iff.mpr ⟨printable_ofList rfl, printable_ofList rfl⟩
    have hclosing : Printable ")" := printable_ofList rfl
    dsimp only [message, title] at hc
    rw [← String.append_assoc, ← String.append_assoc, String.toList_append, String.toList_append,
      List.mem_append, List.mem_append] at hc
    rcases hc with (hc | hc) | hc
    · exact Or.inl (hopening c hc)
    · exact Or.inr ⟨name, rfl, hc⟩
    · exact Or.inl (hclosing c hc)
  · exact Or.inl (printable_message hstart (not_exists.mp hspawned) c hc)

/-- A record is printable in front of its line feed, apart from the name of a process. -/
theorem exists_body {r : Record}
    (hstart : ∀ home identity, r = .started home identity → Printable home ∧ Printable identity) :
    ∃ body, r.line = body ++ "\n" ∧ ∀ c ∈ body.toList,
      isPrintable c = true ∨ ∃ name, r = .spawned (some name) ∧ c ∈ name.toList := by
  have hlevel : Printable r.level.name := by
    generalize r.level = level
    cases level <;> exact printable_ofList rfl
  have hsource : Printable r.source := by cases r <;> exact printable_ofList rfl
  have hcolon : Printable ":" := printable_ofList rfl
  have hopening : Printable (r.level.name ++ ":" ++ r.source ++ ":") := by
    simp only [printable_append_iff, hlevel, hcolon, hsource, and_self]
  refine ⟨_, rfl, ?_⟩
  intro c hc
  rw [String.toList_append, List.mem_append] at hc
  rcases hc with hc | hc
  · exact Or.inl (hopening c hc)
  · exact isPrintable_or_mem_name hstart hc

/-- A number in an account of an error can be told from what stands behind the bracket. -/
theorem toString_append_bracket_inj {m n : Nat} {s t : List Char}
    (h : (toString m).toList ++ ']' :: s = (toString n).toList ++ ']' :: t) : m = n := by
  have hnumber : ∀ (n : Nat) (rest : List Char),
      ((toString n).toList ++ ']' :: rest).takeWhile Char.isDigit = (toString n).toList := by
    intro n rest
    have hstop : (']' :: rest).takeWhile Char.isDigit = [] := rfl
    rw [List.takeWhile_append_of_pos fun _ => Text.isDigit_of_mem_toString, hstop,
      List.append_nil]
  have hsame := congrArg (List.takeWhile Char.isDigit) h
  rw [hnumber, hnumber] at hsame
  exact Text.toString_nat_injective (String.toList_inj.mp hsame)

/-- Why a program was not launched can be told from what is said of it. -/
theorem reason_injective {name : String} {e e' : LaunchError}
    (h : reason name e = reason name e') : e = e' := by
  have hlists := congrArg String.toList h
  cases e with
  | zeroCharacter =>
      cases e' with
      | zeroCharacter => rfl
      | refused e' => simp [reason] at hlists
  | refused e =>
      cases e' with
      | zeroCharacter => simp [reason] at hlists
      | refused e' =>
          simp only [reason, String.toList_append, List.append_assoc] at hlists
          have hnumber := toString_append_bracket_inj (List.append_cancel_left hlists)
          rw [Errno.number_injective hnumber]

/-- The name of a process can be told from what is said of it. -/
theorem title_injective {processName processName' : Option String}
    (h : title processName = title processName') : processName = processName' := by
  cases processName with
  | none =>
      cases processName' with
      | none => rfl
      | some name' =>
          dsimp only [title] at h
          simpa using congrArg String.toList h
  | some name =>
      cases processName' with
      | none =>
          dsimp only [title] at h
          simpa using congrArg String.toList h
      | some name' =>
          dsimp only [title] at h
          rw [(String.append_right_inj _).mp ((String.append_left_inj _).mp h)]

/-- The texts of records of level `debug` begin with different words. -/
theorem message_injective {r r' : Record} (hr : r.level = .debug) (hr' : r'.level = .debug)
    (h : r.message = r'.message) : r = r' := by
  -- two kinds of record differ in the first letter, and one kind leaves what it reports
  cases r with
  | started | unexpected | readFailed | ended => cases hr
  | dispatched name isBuiltin =>
      cases r' with
      | started | unexpected | readFailed | ended => cases hr'
      | notLaunched | spawned | exited =>
          dsimp only [message] at h
          simpa using congrArg String.toList h
      | dispatched name' isBuiltin' =>
          dsimp only [message] at h
          simp only [String.append_assoc, String.append_right_inj] at h
          obtain ⟨rfl, hkind⟩ := Text.quoted_append_inj h
          cases isBuiltin <;> cases isBuiltin' <;> simp_all
  | notLaunched name e =>
      cases r' with
      | started | unexpected | readFailed | ended => cases hr'
      | dispatched | spawned | exited =>
          dsimp only [message] at h
          simpa using congrArg String.toList h
      | notLaunched name' e' =>
          dsimp only [message] at h
          simp only [String.append_assoc, String.append_right_inj] at h
          obtain ⟨rfl, hreason⟩ := Text.quoted_append_inj h
          rw [reason_injective (String.append_right_inj _ |>.mp hreason)]
  | spawned processName =>
      cases r' with
      | started | unexpected | readFailed | ended => cases hr'
      | dispatched | notLaunched | exited =>
          dsimp only [message] at h
          simpa using congrArg String.toList h
      | spawned processName' =>
          dsimp only [message] at h
          rw [title_injective ((String.append_right_inj _).mp h)]
  | exited status =>
      cases r' with
      | started | unexpected | readFailed | ended => cases hr'
      | dispatched | notLaunched | spawned =>
          dsimp only [message] at h
          simpa using congrArg String.toList h
      | exited status' =>
          dsimp only [message] at h
          rw [Text.toString_int_injective ((String.append_right_inj _).mp h)]

/-- Only the commands report at level `debug`. -/
theorem source_of_level_eq_debug {r : Record} (h : r.level = .debug) :
    r.source = "ShellBackend" := by
  cases r <;> first | rfl | cases h

/-- A record of level `debug` can be told from its line: no other record has the same. -/
theorem eq_of_line_eq {r other : Record} (hr : r.level = .debug) (h : other.line = r.line) :
    other = r := by
  have hother : other.level = .debug := by
    simp only [line, hr, String.append_assoc] at h
    generalize other.level = level at h
    cases level with
    | debug => rfl
    | info | warning | error | critical => simpa [LogLevel.name] using congrArg String.toList h
  simp only [line, hr, hother, source_of_level_eq_debug hr, source_of_level_eq_debug hother] at h
  have hmessage := (String.append_right_inj _).mp ((String.append_left_inj _).mp h)
  exact message_injective hother hr hmessage

end Record

namespace Diagnostic

/-- A record starts as a record does. -/
theorem startsRecord_line (r : Record) : startsRecord (encode r.line) = true := by
  refine List.any_eq_true.mpr ⟨r.level, LogLevel.mem_all _, ?_⟩
  rw [Record.line, String.append_assoc, String.append_assoc, String.append_assoc]
  simp [encode, List.isPrefixOf_iff_prefix]

/-- Where every line starts as a record does, there is no account to leave out. -/
theorem withoutAccounts_of_startsRecord {lines : List Bytes}
    (h : ∀ line ∈ lines, startsRecord line = true) : withoutAccounts false lines = lines := by
  induction lines with
  | nil => rfl
  | cons line lines ih =>
      have hline := h line List.mem_cons_self
      have hlines := ih fun k hk => h k (List.mem_cons_of_mem _ hk)
      rw [withoutAccounts, if_pos hline, hlines]

/-- Lines of records come apart again. -/
theorem splitAfter_records {records : List Record}
    (h : ∀ r ∈ records, IsLine (· == 0x0A) (encode r.line)) :
    splitAfter (· == 0x0A) (records.flatMap fun r => encode r.line) =
      records.map fun r => encode r.line := by
  rw [List.flatMap_def]
  apply Text.splitAfter_flatten
  intro line hline
  obtain ⟨r, hr, rfl⟩ := List.mem_map.mp hline
  exact h r hr

/-- Nothing is left out of diagnostics that are only lines of records. -/
theorem transcript_of_records {ds : List Diagnostic} {records : List Record}
    (hbytes : ds.flatMap bytes = records.flatMap fun r => encode r.line)
    (hlines : ∀ r ∈ records, IsLine (· == 0x0A) (encode r.line)) :
    transcript ds = records.flatMap fun r => encode r.line := by
  have hrecords : ∀ line ∈ records.map (fun r => encode r.line), startsRecord line = true := by
    intro line hline
    obtain ⟨r, -, rfl⟩ := List.mem_map.mp hline
    exact startsRecord_line r
  rw [transcript, hbytes, splitAfter_records hlines, withoutAccounts_of_startsRecord hrecords,
    List.flatMap_def]

end Diagnostic

end PocketShell
