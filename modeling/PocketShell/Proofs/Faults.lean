import PocketShell.Proofs.Commands

/-!
# Faults of commands

A fault of a handler leaves its command only if it asks to stop or interrupts, and every other
fault is told to the user. A program that fails, or cannot be launched, is no fault at all.

`Faults` lists the faults that a handler of the table has, and `runWords_eq_error_iff` says which
of them leave a command.

## Implementation notes

`Faults` speaks of the table, the arguments and the session only. It could be read off the
handlers, but then the statement on commands would have the same branches on both sides.
-/

namespace PocketShell.Shell

open Text (words)

variable {W : Type u} (host : Host W) (handlers : Handlers) (sh : Shell W)

/-- The faults of the handler that the table has for a command. An entry that fails has its own
fault. Of the handlers that come with the commands, those of `exit` and `quit` ask to stop, and
that of `ls` has no use for a path with a zero character. -/
inductive Faults (handlers : Handlers) (sh : Shell W) : Builtin → List String → Fault → Prop
  | replaced {b arguments fault} (h : handlers b = .fails fault) :
      Faults handlers sh b arguments fault
  | stops {b arguments} (h : handlers b = .standard) (hb : b = .exit ∨ b = .quit) :
      Faults handlers sh b arguments ⟨.stop, ""⟩
  | unusable {arguments} (h : handlers .ls = .standard)
      (hz : hasZero (arguments.headD sh.session.workingDirectory) = true) :
      Faults handlers sh .ls arguments ⟨.badValue, "embedded null byte"⟩

/-- Listing a directory faults at a zero character only. -/
theorem listDirectory_eq_error_iff {path : String} {fault : Fault} :
    sh.listDirectory host path = .error fault ↔
      hasZero path = true ∧ fault = ⟨.badValue, "embedded null byte"⟩ := by
  simp only [listDirectory]
  split
  · next hz => simp [hz, eq_comm]
  · next hz => split <;> simp [hz]

/-- A handler faults exactly as the table, the arguments and the session say. -/
theorem handle_eq_error_iff {b : Builtin} {arguments : List String} {fault : Fault} :
    (sh.handle host handlers b arguments).1 = .error fault ↔
      Faults handlers sh b arguments fault := by
  constructor
  · intro h
    cases hb : handlers b with
    | standard =>
        simp only [handle, hb] at h
        cases b with
        | exit => exact Except.error.inj h ▸ .stops hb (Or.inl rfl)
        | quit => exact Except.error.inj h ▸ .stops hb (Or.inr rfl)
        | ls =>
            obtain ⟨hz, rfl⟩ := (listDirectory_eq_error_iff host sh).mp h
            exact .unusable hb hz
        | help | echo | pwd | cd | whoami | uname | date | clear => cases h
    | returns text => simp [handle, hb] at h
    | fails f =>
        simp only [handle, hb, Except.error.injEq] at h
        exact .replaced (h ▸ hb)
  · intro h
    cases h with
    | replaced h => simp [handle, h]
    | stops h hb => rcases hb with rfl | rfl <;> simp [handle, h, standardHandler]
    | unusable h hz =>
        simp only [handle, h, standardHandler]
        exact (listDirectory_eq_error_iff host sh).mpr ⟨hz, rfl⟩

/-- An interruption stands in the table. -/
theorem Faults.eq_fails_of_interrupt {handlers : Handlers} {sh : Shell W} {b : Builtin}
    {arguments : List String} {fault : Fault} (h : Faults handlers sh b arguments fault)
    (hi : fault.kind = .interrupt) : handlers b = .fails fault := by
  cases h with
  | replaced h => exact h
  | stops => cases hi
  | unusable => cases hi

/-- Settling keeps exactly the faults that pass a command. -/
theorem settle_eq_error_iff {result : Except Fault String} {fault : Fault} :
    (settle result).1 = .error fault ↔
      result = .error fault ∧ fault.kind.passesCommand = true := by
  constructor
  · intro h
    cases result with
    | ok text => simp [settle] at h
    | error f =>
        simp only [settle] at h
        split at h
        · next hp =>
            obtain rfl := Except.error.inj h
            exact ⟨rfl, hp⟩
        · split at h <;> cases h
  · rintro ⟨rfl, hp⟩
    simp [settle, hp]

/-- A name of no built-in command is launched, and its outcome is told. -/
theorem exists_describe_of_external {name : String} (hname : ∀ b, Builtin.name b ≠ name)
    (arguments : List String) :
    ∃ outcome, (sh.runWords host handlers (name :: arguments)).result =
      .ok (describe name outcome) := by
  rw [runWords_of_external host handlers sh (Builtin.named?_eq_none_iff.mpr hname)]
  exact ⟨_, rfl⟩

/-- The result of a built-in command is that of its handler, settled. -/
theorem result_runWords (b : Builtin) (arguments : List String) :
    (sh.runWords host handlers (b.name :: arguments)).result =
      (settle (sh.handle host handlers b arguments).1).1 := by
  rw [runWords_of_builtin]
  rfl

/-- The faults that leave a command are the requests to stop and the interruptions that the
handler of its first word has. -/
theorem runWords_eq_error_iff {name : String} {arguments : List String} {fault : Fault} :
    (sh.runWords host handlers (name :: arguments)).result = .error fault ↔
      (fault.kind = .stop ∨ fault.kind = .interrupt) ∧
        ∃ b, Builtin.name b = name ∧ Faults handlers sh b arguments fault := by
  by_cases hname : ∃ b, Builtin.name b = name
  · obtain ⟨b, rfl⟩ := hname
    rw [result_runWords, settle_eq_error_iff, handle_eq_error_iff, Fault.Kind.passesCommand_iff,
      and_comm]
    refine and_congr_right fun _ => ⟨fun h => ⟨b, rfl, h⟩, ?_⟩
    rintro ⟨c, hc, h⟩
    exact Builtin.name_injective hc ▸ h
  · have hnone := not_exists.mp hname
    obtain ⟨outcome, hout⟩ := exists_describe_of_external host handlers sh hnone arguments
    rw [hout]
    constructor
    · intro h
      cases h
    · rintro ⟨-, b, hb, -⟩
      exact absurd hb (hnone b)

/-- A fault that does not leave its command is told. -/
theorem runWords_of_faults {b : Builtin} {arguments : List String} {fault : Fault}
    (h : Faults handlers sh b arguments fault) (hs : fault.kind ≠ .stop)
    (hi : fault.kind ≠ .interrupt) :
    (sh.runWords host handlers (b.name :: arguments)).result =
      .ok ((if fault.kind = .denied then "PermissionError: " else "Error: ") ++
        fault.message ++ "\n") := by
  have hp : ¬ fault.kind.passesCommand = true := by
    rw [Fault.Kind.passesCommand_iff]
    exact not_or.mpr ⟨hs, hi⟩
  rw [result_runWords, (handle_eq_error_iff host handlers sh).mpr h]
  simp only [settle, if_neg hp]
  split <;> rfl

/-- A fault that leaves the execution of a line, by the words of the line. -/
theorem execute_eq_error_iff {line : String} {fault : Fault} :
    (sh.execute host handlers line).result = .error fault ↔
      (fault.kind = .stop ∨ fault.kind = .interrupt) ∧
        ∃ b arguments, words line = Builtin.name b :: arguments ∧
          Faults handlers sh b arguments fault := by
  simp only [execute]
  cases hw : words line with
  | nil => simp [runWords]
  | cons name arguments =>
      rw [runWords_eq_error_iff]
      refine and_congr_right fun _ => ⟨?_, ?_⟩
      · rintro ⟨b, rfl, h⟩
        exact ⟨b, arguments, rfl, h⟩
      · rintro ⟨b, rest, heq, h⟩
        obtain ⟨rfl, rfl⟩ := List.cons.inj heq
        exact ⟨b, rfl, h⟩

/-- A fault that leaves the execution of a line asks to stop, unless the table has the
interruption for a command that was called. -/
theorem stop_of_execute_error {line : String} {fault : Fault}
    (h : (sh.execute host handlers line).result = .error fault)
    (hcalls : ∀ b arguments, .called b arguments ∈ (sh.execute host handlers line).events →
      ∀ message, handlers b ≠ .fails ⟨.interrupt, message⟩) :
    fault.kind = .stop := by
  obtain ⟨hk, b, arguments, hw, hfaults⟩ := (execute_eq_error_iff host handlers sh).mp h
  apply hk.resolve_right
  intro hi
  have hcalled : .called b arguments ∈ (sh.execute host handlers line).events := by
    rw [execute_of_builtin host handlers sh hw]
    simp [runBuiltin]
  apply hcalls b arguments hcalled fault.message
  rw [hfaults.eq_fails_of_interrupt hi, ← hi]

end PocketShell.Shell
