import PocketShell.Proofs.Commands

/-!
# What `echo` returns

`echo` returns the words of its line with one space between them and a line feed behind them, and
nothing at all if there are none. So its text is a normal form of the line: it has the words of the
line, `echo` leaves it as it is, and two lines come to the same text exactly if they have the same
words.

Main statement: `Shell.echo_normal_form`.

## Implementation notes

The empty text and a line feed have the same words. A text that ended in a line feed without words
would still have the words of its line, and `echo` would keep it; so what the case without words
comes to is decided by `echoed` alone, and `words_echoed` has it as a case of its own.
-/

namespace PocketShell

open Text (IsWord words words_word_space words_of_isWord words_append_feed isWord_of_mem_words)

namespace Text

/-- Words with one space between them are found again. -/
theorem words_spaced {ws : List String} (h : ∀ w ∈ ws, IsWord w) :
    words (" ".intercalate ws) = ws := by
  induction ws with
  | nil => rfl
  | cons w ws ih =>
      obtain ⟨hw, hlater⟩ := List.forall_mem_cons.mp h
      cases ws with
      | nil =>
          rw [String.intercalate_singleton]
          exact words_of_isWord hw
      | cons next rest =>
          calc words (" ".intercalate (w :: next :: rest))
            _ = words (w ++ " " ++ " ".intercalate (next :: rest)) := by
                rw [String.intercalate_cons_cons]
            _ = w :: words (" ".intercalate (next :: rest)) := words_word_space hw _
            _ = w :: next :: rest := by rw [ih hlater]

end Text

namespace Shell

variable {W : Type u}

/-- The text of `echo` has the words that it was given. -/
theorem words_echoed {ws : List String} (h : ∀ w ∈ ws, IsWord w) : words (echoed ws) = ws := by
  cases ws with
  | nil => rfl
  | cons w ws =>
      calc words (echoed (w :: ws))
        _ = words (" ".intercalate (w :: ws)) := words_append_feed _
        _ = w :: ws := Text.words_spaced h

/-- `echo` returns the words behind it and does nothing else. -/
theorem execute_echo (host : Host W) (sh : Shell W) (s : String) :
    sh.execute host .standard ("echo " ++ s) =
      ⟨.ok (echoed (words s)), sh,
        [.logged (.dispatched "echo" true), .called .echo (words s)]⟩ :=
  execute_of_text host sh (Builtin.echo.words_name_space s) rfl

/-- The text of `echo` is a normal form of the line behind its name. It has the words of the line,
and `echo` returns it as it is in whatever shell it is given it again. Two lines have the same text
exactly if they have the same words, also in two shells. No shell is changed by any of this. -/
theorem echo_normal_form (host host' : Host W) (sh sh' : Shell W) (s s' : String) :
    let step := sh.execute host .standard ("echo " ++ s)
    let step' := sh'.execute host' .standard ("echo " ++ s')
    step.shell = sh ∧ step'.shell = sh' ∧
    (∃ text, step.result = .ok text ∧ words text = words s ∧
      (sh'.execute host' .standard ("echo " ++ text)).result = .ok text ∧
      (sh'.execute host' .standard ("echo " ++ text)).shell = sh') ∧
    (step.result = step'.result ↔ words s = words s') := by
  intro step step'
  have hstep : step.result = .ok (echoed (words s)) := by simp only [step, execute_echo]
  have hstep' : step'.result = .ok (echoed (words s')) := by simp only [step', execute_echo]
  have hwords (line : String) : words (echoed (words line)) = words line :=
    words_echoed fun w hw => isWord_of_mem_words hw
  refine ⟨by simp only [step, execute_echo], by simp only [step', execute_echo], ?_, ?_⟩
  · refine ⟨echoed (words s), hstep, hwords s, ?_, ?_⟩
    · rw [execute_echo, hwords]
    · rw [execute_echo]
  · rw [hstep, hstep']
    constructor
    · intro h
      have htext : echoed (words s) = echoed (words s') := Except.ok.inj h
      rw [← hwords s, htext, hwords]
    · intro h
      rw [h]

end Shell

end PocketShell
