import Mathlib.Data.List.Forall2
import PocketShell.Proofs.Conversations

/-!
# How a line is spelled

The loop sees a line through its words, and beside them only whether it is empty: an empty line
is the end of the input, and a blank one is not, though neither has words. Two runs on reads that
agree in this respect go on in lockstep and cannot be told apart.

## Implementation notes

The traces of the two runs are not equal, as a trace records every line as it is read. They agree
event by event, up to the spelling of lines with the same words, and each view of a trace is shown
to be the same for traces that agree so.
-/

namespace PocketShell

open Text (words)

/-- Reads that are the same to the loop: one fault, two ends of the input, or two lines with the
same words. -/
inductive Read.Alike : Read → Read → Prop
  | fails (fault : Fault) : Alike (.fails fault) (.fails fault)
  | ended : Alike (.line "") (.line "")
  | lines {s t : String} (hs : s ≠ "") (ht : t ≠ "") (hw : words s = words t) :
      Alike (.line s) (.line t)

/-- Events that differ at most in the spelling of a line. -/
inductive Event.Alike : Event → Event → Prop
  | same (e : Event) : Alike e e
  | executing {s t : String} (hw : words s = words t) : Alike (.executing s) (.executing t)

namespace Trace

/-- Traces whose events differ at most in the spelling of lines. -/
abbrev Alike (t t' : Trace) : Prop := List.Forall₂ Event.Alike t t'

theorem Alike.refl (t : Trace) : Alike t t := List.forall₂_same.mpr fun e _ => .same e

theorem Alike.append {s s' t t' : Trace} (hs : Alike s s') (ht : Alike t t') :
    Alike (s ++ t) (s' ++ t') := List.rel_append hs ht

/-- The programs that are launched do not depend on the spelling. -/
theorem Alike.launches_eq {t t' : Trace} (h : Alike t t') : t.launches = t'.launches := by
  induction h with
  | nil => rfl
  | cons he _ ih =>
      simp only [launches] at ih
      cases he <;> simp only [launches, List.filterMap_cons, ih]

/-- A part of a trace lets go out the same. -/
theorem Alike.exchange_eq {t t' : Trace} (h : Alike t t') (waiting : String) :
    Exchange.of waiting t = Exchange.of waiting t' := by
  induction h generalizing waiting with
  | nil => rfl
  | @cons e _ _ _ he _ ih =>
      cases he with
      | executing hw => simp only [Exchange.of, ih]
      | same =>
          cases e with
          | child stream bytes => cases stream <;> simp only [Exchange.of, ih]
          | _ => simp only [Exchange.of, ih]

/-- An event goes to the first part. -/
theorem modifyHead_alike {e e' : Event} (he : Event.Alike e e')
    {parts parts' : List Trace} (h : List.Forall₂ Alike parts parts') :
    List.Forall₂ Alike (parts.modifyHead (e :: ·)) (parts'.modifyHead (e' :: ·)) := by
  cases h with
  | nil => exact .nil
  | cons hpart hparts => exact .cons (.cons he hpart) hparts

/-- The requests for lines part both traces in the same places. -/
theorem Alike.exchanges {t t' : Trace} (h : Alike t t') :
    List.Forall₂ Alike t.exchanges t'.exchanges := by
  induction h with
  | nil => exact .cons .nil .nil
  | @cons e e' _ _ he _ ih =>
      have hasked : (e == .asked) = (e' == .asked) := by cases he <;> rfl
      simp only [Trace.exchanges, List.splitOnP_cons_eq_if_modifyHead, hasked]
      split
      · exact .cons .nil ih
      · exact modifyHead_alike he ih

end Trace

/-- All that goes out, between one request for a line and the next, is the same. -/
theorem Exchange.all_eq_of_alike {parts parts' : List Trace}
    (h : List.Forall₂ Trace.Alike parts parts') (waiting : String) :
    Exchange.all waiting parts = Exchange.all waiting parts' := by
  induction h generalizing waiting with
  | nil => rfl
  | cons hpart _ ih => simp only [Exchange.all, hpart.exchange_eq, ih]

namespace Loop

variable {W : Type u} (host : Host W) (handlers : Handlers)

/-- Turns with reads that are the same to the loop go on the same way from the same shell. -/
theorem exists_turn_eq_of_alike {read read' : Read} (h : Read.Alike read read') (sh : Shell W) :
    ∃ next shell events events', turn host handlers sh read = ⟨next, shell, events⟩ ∧
      turn host handlers sh read' = ⟨next, shell, events'⟩ ∧ Trace.Alike events events' := by
  cases h with
  | fails fault => exact ⟨_, _, _, _, rfl, rfl, Trace.Alike.refl _⟩
  | ended => exact ⟨_, _, _, _, rfl, rfl, Trace.Alike.refl _⟩
  | @lines s t hs ht hw =>
      have hexecute : sh.execute host handlers s = sh.execute host handlers t := by
        simp only [Shell.execute, hw]
      have hstart : Trace.Alike [.flushed, .executing s] [.flushed, .executing t] :=
        .cons (.same _) (.cons (.executing hw) .nil)
      cases hr : (sh.execute host handlers t).result with
      | ok out =>
          have hturn := turn_of_ok hs (hexecute ▸ hr)
          rw [hexecute] at hturn
          exact ⟨_, _, _, _, hturn, turn_of_ok ht hr, hstart.append (Trace.Alike.refl _)⟩
      | error fault =>
          have hturn := turn_of_error hs (hexecute ▸ hr)
          rw [hexecute] at hturn
          exact ⟨_, _, _, _, hturn, turn_of_error ht hr, hstart.append (Trace.Alike.refl _)⟩

/-- So do runs on such reads, turn by turn. -/
theorem converse_alike {reads reads' : List Read} (h : List.Forall₂ Read.Alike reads reads')
    (sh : Shell W) :
    let talk := converse host handlers sh reads
    let talk' := converse host handlers sh reads'
    talk.result = talk'.result ∧ talk.shell = talk'.shell ∧
      List.Forall₂ Read.Alike talk.unread talk'.unread ∧
      Trace.Alike talk.events talk'.events := by
  induction h generalizing sh with
  | nil => exact ⟨rfl, rfl, .nil, Trace.Alike.refl _⟩
  | @cons read read' rest rest' hread hrest ih =>
      obtain ⟨next, shell, events, events', ht, ht', halike⟩ :=
        exists_turn_eq_of_alike host handlers hread sh
      have hasked : Trace.Alike (ask sh ++ events) (ask sh ++ events') :=
        Trace.Alike.append (Trace.Alike.refl _) halike
      -- the three ways to go on: another turn, the notice, or a fault that leaves the run
      rcases next with _ | _ | fault
      · obtain ⟨hresult, hshell, hunread, hevents⟩ := ih shell
        simp only [converse_of_again ht, converse_of_again ht']
        exact ⟨hresult, hshell, hunread, hasked.append hevents⟩
      · simp only [converse_of_over ht, converse_of_over ht', true_and]
        exact ⟨hrest, hasked.append (Trace.Alike.refl _)⟩
      · simp only [converse_of_escaped ht, converse_of_escaped ht', true_and]
        exact ⟨hrest, hasked⟩

/-- The loop sees a line only through its words. Runs on reads that are alike end in the same way
and in the same shell, leave as many reads, let the same go out in front of every request for a
line, and launch the same programs with the same arguments. -/
theorem run_alike (showsBanner : Bool) (sh : Shell W) {reads reads' : List Read}
    (h : List.Forall₂ Read.Alike reads reads') :
    let talk := run host handlers showsBanner sh reads
    let talk' := run host handlers showsBanner sh reads'
    talk.result = talk'.result ∧ talk.shell = talk'.shell ∧
      talk.unread.length = talk'.unread.length ∧
      Exchange.all "" talk.events.exchanges = Exchange.all "" talk'.events.exchanges ∧
      talk.events.launches = talk'.events.launches ∧
      Trace.Alike talk.events talk'.events := by
  intro talk talk'
  obtain ⟨hresult, hshell, hunread, hevents⟩ := converse_alike host handlers h sh
  have halike : Trace.Alike talk.events talk'.events :=
    Trace.Alike.append (Trace.Alike.refl _) hevents
  exact ⟨hresult, hshell, hunread.length_eq, Exchange.all_eq_of_alike halike.exchanges "",
    halike.launches_eq, halike⟩

/-- Runs on lines with other blanks in them, one of them a line feed inside a line, that change
the directory, are denied the date, and remove a file before a read fails. -/
theorem run_alike_of_other_blanks :
    let sh := Shell.start "/" "root" ["/a"]
    let reads : List Read := [.line "cd /a\n", .line "\n", .line "date now\n", .line "rm /a\n",
      .fails ⟨.refused, "gone"⟩, .line ""]
    let reads' : List Read := [.line "\u2003cd\u0085/a", .line " \t", .line "date\nnow",
      .line "rm\x0b/a\r\n", .fails ⟨.refused, "gone"⟩, .line ""]
    let talk := run Host.removing .altered true sh reads
    let talk' := run Host.removing .altered true sh reads'
    List.Forall₂ Read.Alike reads reads' ∧
    talk.result = talk'.result ∧ talk.shell = talk'.shell ∧
    talk.unread.length = talk'.unread.length ∧
    Exchange.all "" talk.events.exchanges = Exchange.all "" talk'.events.exchanges ∧
    talk.events.launches = talk'.events.launches ∧ Trace.Alike talk.events talk'.events := by
  intro sh reads reads' talk talk'
  have halike : List.Forall₂ Read.Alike reads reads' :=
    .cons (.lines (by decide) (by decide) (by decide +kernel)) <|
    .cons (.lines (by decide) (by decide) (by decide +kernel)) <|
    .cons (.lines (by decide) (by decide) (by decide +kernel)) <|
    .cons (.lines (by decide) (by decide) (by decide +kernel)) <|
    .cons (.fails _) <| .cons .ended .nil
  exact ⟨halike, run_alike Host.removing .altered true sh halike⟩

end Loop

end PocketShell
