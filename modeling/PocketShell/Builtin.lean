/-!
# Built-in commands

The commands that the shell carries out itself. They are known by their exact names; every
other name is that of an external command.
-/

namespace PocketShell

/-- The built-in commands. -/
inductive Builtin where
  | exit
  | quit
  | help
  | echo
  | pwd
  | cd
  | ls
  | whoami
  | uname
  | date
  | clear
  deriving DecidableEq, Repr

namespace Builtin

/-- All built-in commands, in the order of their declaration. -/
def all : List Builtin := [exit, quit, help, echo, pwd, cd, ls, whoami, uname, date, clear]

/-- The name that a built-in command is called by. -/
def name : Builtin → String
  | exit => "exit"
  | quit => "quit"
  | help => "help"
  | echo => "echo"
  | pwd => "pwd"
  | cd => "cd"
  | ls => "ls"
  | whoami => "whoami"
  | uname => "uname"
  | date => "date"
  | clear => "clear"

/-- The built-in command with a name. -/
def named? (s : String) : Option Builtin := all.find? (·.name = s)

theorem mem_all (b : Builtin) : b ∈ all := by
  cases b <;> decide

theorem name_injective {a b : Builtin} (h : a.name = b.name) : a = b := by
  cases a <;> cases b <;> simp_all [name]

/-- A name finds a built-in command exactly if it is its name. -/
theorem named?_eq_some_iff {s : String} {b : Builtin} : named? s = some b ↔ b.name = s := by
  constructor
  · intro h
    simpa using List.find?_some h
  · intro h
    obtain ⟨a, ha⟩ : ∃ a, named? s = some a := by
      rw [named?, ← Option.isSome_iff_exists, List.find?_isSome]
      exact ⟨b, mem_all b, by simpa using h⟩
    have : a.name = s := by simpa using List.find?_some ha
    rw [ha, name_injective (this.trans h.symm)]

/-- A name finds none exactly if it is the name of none. -/
theorem named?_eq_none_iff {s : String} : named? s = none ↔ ∀ b, name b ≠ s := by
  rw [Option.eq_none_iff_forall_ne_some]
  exact forall_congr' fun b => not_congr named?_eq_some_iff

/-- How each command is used and what it does, in the order in which `help` shows it. -/
def usages : List (String × String) :=
  [("help", "Show this help message"),
   ("echo [text]", "Print text"),
   ("pwd", "Print working directory"),
   ("cd [dir]", "Change directory"),
   ("ls [dir]", "List directory"),
   ("whoami", "Print current user"),
   ("uname", "Print system information"),
   ("date", "Print current date/time"),
   ("clear", "Clear screen"),
   ("exit/quit", "Exit shell")]

/-- The width of the column of usages. -/
def usageWidth : Nat := 13

/-- A text filled up with spaces to a width. -/
def padded (width : Nat) (s : String) : String :=
  s ++ String.ofList (List.replicate (width - s.length) ' ')

/-- The text of `help`. -/
def helpText : String :=
  "Available commands:\n" ++
    String.join (usages.map fun (usage, purpose) =>
      "  " ++ padded usageWidth usage ++ " - " ++ purpose ++ "\n")

end Builtin

end PocketShell
