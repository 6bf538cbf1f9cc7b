import PocketShell.Text.Quoted
import PocketShell.Text.Upper

/-!
# Log levels

Records are kept or dropped by their level. A level is named in any mix of upper and lower
case, as far as the name in upper case is that of a level.
-/

namespace PocketShell

/-- The levels, from the one that keeps everything to the strictest. -/
inductive LogLevel where
  | debug
  | info
  | warning
  | error
  | critical
  deriving DecidableEq, Repr

namespace LogLevel

/-- All levels, the laxest first. -/
def all : List LogLevel := [debug, info, warning, error, critical]

/-- The name of a level. -/
def name : LogLevel → String
  | debug => "DEBUG"
  | info => "INFO"
  | warning => "WARNING"
  | error => "ERROR"
  | critical => "CRITICAL"

/-- The rank of a level: the stricter, the higher. -/
def rank : LogLevel → Nat
  | debug => 0
  | info => 1
  | warning => 2
  | error => 3
  | critical => 4

/-- The level that a text names. -/
def named? (s : String) : Option LogLevel := all.find? (·.name = Text.upper s)

/-- What a text that names no level is told. -/
def refusal (s : String) : String := "invalid log level: " ++ Text.quoted s

theorem mem_all (l : LogLevel) : l ∈ all := by cases l <;> decide

/-- The names of the levels are distinct. -/
theorem name_injective {l l' : LogLevel} (h : l.name = l'.name) : l = l' := by
  cases l <;> cases l' <;> simp_all [name]

/-- A text names a level exactly if its upper case is the name of the level. -/
theorem named?_eq_some_iff {s : String} {l : LogLevel} :
    named? s = some l ↔ l.name = Text.upper s := by
  constructor
  · intro h
    simpa using List.find?_some h
  · intro h
    obtain ⟨l', hl'⟩ : ∃ l', named? s = some l' := by
      rw [named?, ← Option.isSome_iff_exists, List.find?_isSome]
      exact ⟨l, mem_all l, by simpa using h⟩
    have hname : l'.name = Text.upper s := by simpa using List.find?_some hl'
    rw [hl', name_injective (hname.trans h.symm)]

/-- Whether a record of the level `l` is kept when `threshold` is set. -/
def keeps (threshold l : LogLevel) : Bool := threshold.rank ≤ l.rank

end LogLevel

end PocketShell
