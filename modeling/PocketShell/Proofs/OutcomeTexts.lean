import PocketShell.Launch
import PocketShell.Proofs.RecordLines

/-!
# What is told of an outcome

The text that the user is shown of an external command tells what came of it. A launch that failed
is told with the name of the command, a signal or a status other than zero with its number, and
success with no text at all. No text belongs to two of these, whatever the command is called: the
name stands behind words with which no text of a status begins, and up to the end of the text.

Main statement: `describe_eq_describe_iff`.
-/

namespace PocketShell

/-- A status as it is told. A negative one is the signal that ended the program. -/
def statusText (status : Int) : String :=
  if status < 0 then "signal " ++ toString (-status) else toString status

/-- No status begins as a signal does. -/
theorem signal_append_ne_toString {status : Int} (h : ¬ status < 0) (text : String) :
    "signal " ++ text ≠ toString status := by
  intro heq
  obtain ⟨n, rfl⟩ := Int.eq_ofNat_of_zero_le (Int.not_lt.mp h)
  have hletter : 's' ∈ (toString n).toList := by
    have hdigits : toString (n : Int) = toString n := rfl
    simp [← hdigits, ← heq]
  have hdigit : Char.isDigit 's' = true := Text.isDigit_of_mem_toString hletter
  cases hdigit

/-- A status can be told from its text. -/
theorem statusText_injective {i j : Int} (h : statusText i = statusText j) : i = j := by
  by_cases hi : i < 0
  · rw [statusText, if_pos hi] at h
    by_cases hj : j < 0
    · rw [statusText, if_pos hj, String.append_right_inj] at h
      exact Int.neg_inj.mp (Text.toString_int_injective h)
    · rw [statusText, if_neg hj] at h
      exact absurd h (signal_append_ne_toString hj _)
  · rw [statusText, if_neg hi] at h
    by_cases hj : j < 0
    · rw [statusText, if_pos hj] at h
      exact absurd h.symm (signal_append_ne_toString hi _)
    · rw [statusText, if_neg hj] at h
      exact Text.toString_int_injective h

/-- The status of a program that did not exit with zero is told behind words of its own. -/
theorem describe_of_ne_zero (name : String) {status : Int} (h : status ≠ 0) :
    describe name (.ok status) =
      "[sh] command exited with status: " ++ statusText status ++ "\n" := by
  rw [describe_ok, if_neg h, statusText]
  split
  · simp only [← String.append_assoc]
    rfl
  · rfl

/-- What is told of a launch that failed is told of no program that ran. -/
theorem describe_error_ne_ok (name name' : String) (e : LaunchError) (status : Int) :
    describe name (.error e) ≠ describe name' (.ok status) := by
  intro h
  rw [describe_error] at h
  by_cases hzero : status = 0
  · rw [hzero, describe_ok, if_pos rfl] at h
    simpa using congrArg String.toList h
  · rw [describe_of_ne_zero name' hzero] at h
    simpa using congrArg String.toList h

/-- Launches that failed are told apart by the names of the commands. -/
theorem describe_error_inj {name name' : String} {e e' : LaunchError}
    (h : describe name (.error e) = describe name' (.error e')) : name = name' := by
  rw [describe_error, describe_error, String.append_left_inj, String.append_right_inj] at h
  exact h

/-- Programs that ran are told apart by their statuses. -/
theorem describe_ok_inj {name name' : String} {status status' : Int}
    (h : describe name (.ok status) = describe name' (.ok status')) : status = status' := by
  have hsilent (name : String) : describe name (.ok 0) = "" := rfl
  by_cases hzero : status = 0
  · by_cases hzero' : status' = 0
    · rw [hzero, hzero']
    · rw [hzero, hsilent, describe_of_ne_zero name' hzero'] at h
      simpa using congrArg String.toList h
  · by_cases hzero' : status' = 0
    · rw [hzero', hsilent, describe_of_ne_zero name hzero] at h
      simpa using congrArg String.toList h
    · rw [describe_of_ne_zero name hzero, describe_of_ne_zero name' hzero',
        String.append_left_inj, String.append_right_inj] at h
      exact statusText_injective h

/-- Only a program that exited with zero is told nothing of. -/
theorem describe_eq_empty_iff {name : String} {outcome : Outcome} :
    describe name outcome = "" ↔ outcome = .ok 0 := by
  have hsilent : describe name (.ok 0) = "" := rfl
  rw [← hsilent]
  cases outcome with
  | error e => simp [describe_error_ne_ok]
  | ok status =>
      rw [Except.ok.injEq]
      exact ⟨describe_ok_inj, fun h => by rw [h]⟩

/-- Only a launch that failed is told as a command that was not found. -/
theorem describe_eq_notFound_iff {name : String} {outcome : Outcome} :
    describe name outcome = "[sh] command not found: " ++ name ++ "\n" ↔
      ∃ e, outcome = .error e := by
  cases outcome with
  | error e => simp [describe_error]
  | ok status =>
      simp only [reduceCtorEq, exists_false, iff_false]
      exact (describe_error_ne_ok name name .zeroCharacter status).symm

/-- The text of an outcome determines it, but for the reason why a launch failed, and determines the
name of what was not launched. No name imitates the text of another outcome. -/
theorem describe_eq_describe_iff {name name' : String} {outcome outcome' : Outcome} :
    describe name outcome = describe name' outcome' ↔
      (∃ e e', outcome = .error e ∧ outcome' = .error e' ∧ name = name') ∨
        ∃ status, outcome = .ok status ∧ outcome' = .ok status := by
  constructor
  · intro h
    cases outcome with
    | error e =>
        cases outcome' with
        | error e' => exact Or.inl ⟨e, e', rfl, rfl, describe_error_inj h⟩
        | ok status' => exact absurd h (describe_error_ne_ok name name' e status')
    | ok status =>
        cases outcome' with
        | error e' => exact absurd h.symm (describe_error_ne_ok name' name e' status)
        | ok status' =>
            have hstatus := describe_ok_inj h
            exact Or.inr ⟨status, rfl, by rw [hstatus]⟩
  · rintro (⟨e, e', rfl, rfl, rfl⟩ | ⟨status, rfl, rfl⟩)
    · rw [describe_error, describe_error]
    · rw [describe_ok, describe_ok]

end PocketShell
