import PocketShell.Trace

/-!
# Views of a trace, part by part

A view of two traces in a row is made from the views of the two. What waits to be flushed is
handed on from the first to the second; every other view only joins its parts. The events of a
command neither write nor flush, so the views of the output pass over them.
-/

namespace PocketShell

/-- The events of a command itself. Writing, flushing and asking are left to the loop. -/
def Event.isCommand : Event → Bool
  | .called _ _ | .launching _ _ | .child _ _ | .logged _ => true
  | _ => false

namespace Trace

@[simp] theorem written_nil : written [] = "" := rfl

@[simp] theorem written_append (s t : Trace) : written (s ++ t) = written s ++ written t := by
  simp [written]

@[simp] theorem written_wrote (text : String) (t : Trace) :
    written (.wrote text :: t) = text ++ written t := by
  simp [written]

@[simp] theorem written_flushed (t : Trace) : written (.flushed :: t) = written t := by
  simp [written]

@[simp] theorem written_asked (t : Trace) : written (.asked :: t) = written t := by
  simp [written]

@[simp] theorem written_executing (line : String) (t : Trace) :
    written (.executing line :: t) = written t := by
  simp [written]

@[simp] theorem written_logged (r : Record) (t : Trace) :
    written (.logged r :: t) = written t := by
  simp [written]

/-- Nothing of what a command does is text of the shell. -/
theorem written_of_isCommand {t : Trace} (h : ∀ e ∈ t, e.isCommand = true) : written t = "" := by
  induction t with
  | nil => rfl
  | cons e rest ih =>
      have ht := ih fun e he => h e (by simp [he])
      have he := h e (by simp)
      cases e <;> simp_all [Event.isCommand, written]

/-- What waits after the first part waits before the second. -/
@[simp] theorem pending_append (waiting : String) (s t : Trace) :
    pending waiting (s ++ t) = pending (pending waiting s) t := by
  induction s generalizing waiting with
  | nil => rfl
  | cons e rest ih => cases e <;> simp only [List.cons_append, pending, ih]

/-- A command leaves what waits as it is. -/
theorem pending_of_isCommand {t : Trace} (h : ∀ e ∈ t, e.isCommand = true) (waiting : String) :
    pending waiting t = waiting := by
  induction t with
  | nil => rfl
  | cons e rest ih =>
      have ht := ih fun e he => h e (by simp [he])
      have he := h e (by simp)
      cases e <;> simp_all [Event.isCommand, pending]

/-- The handlers that are called, with their arguments. -/
def calls (t : Trace) : List (Builtin × List String) :=
  t.filterMap fun | .called b arguments => some (b, arguments) | _ => none

theorem mem_calls_iff {t : Trace} {b : Builtin} {arguments : List String} :
    (b, arguments) ∈ t.calls ↔ .called b arguments ∈ t := by
  simp only [calls, List.mem_filterMap]
  constructor
  · rintro ⟨e, he, heq⟩
    cases e <;> cases heq
    exact he
  · intro h
    exact ⟨_, h, rfl⟩

@[simp] theorem launches_append (s t : Trace) : launches (s ++ t) = launches s ++ launches t :=
  List.filterMap_append

/-- A command asks for no line. -/
theorem count_asked_of_isCommand {t : Trace} (h : ∀ e ∈ t, e.isCommand = true) :
    t.count .asked = 0 := by
  apply List.count_eq_zero.mpr
  intro hm
  exact Bool.noConfusion (h _ hm)

end Trace

end PocketShell
