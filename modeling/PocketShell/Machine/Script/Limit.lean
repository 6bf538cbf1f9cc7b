import PocketShell.Machine.Script.Builtin

/-!
# Limits

The limits on what a process may use, which a script can see and lower. Nothing here comes near
them, so they have no effect.
-/

namespace PocketShell.Machine.Script

open Act

/-- The titles of the limits by their letters, in the order in which they are shown. -/
def limitTitles : List (Char × String) :=
  [('t', "time(seconds)"), ('f', "file(blocks)"), ('d', "data(kbytes)"), ('s', "stack(kbytes)"),
   ('c', "coredump(blocks)"), ('m', "memory(kbytes)"), ('l', "locked memory(kbytes)"),
   ('p', "process"), ('n', "nofiles"), ('v', "vmemory(kbytes)"), ('w', "locks"), ('r', "rtprio")]

/-- The limits that there are at first. -/
def firstLimits : List (Char × Limit) :=
  [('s', ⟨some 8192, none⟩), ('c', ⟨some 0, none⟩), ('l', ⟨some 8192, some 8192⟩),
   ('p', ⟨some 128620, some 128620⟩), ('n', ⟨some 20000, some 20000⟩), ('r', ⟨some 0, some 0⟩)]

/-- Whether one bound is higher than another. -/
def exceeds : Option Nat → Option Nat → Bool
  | _, none => false
  | none, some _ => true
  | some a, some b => b < a

/-- The bound that a text stands for. -/
def bound? (s : String) : Option (Option Nat) :=
  if s = "unlimited" then some none
  else if s.toList.all Char.isDigit then some (some (decimal s.toList))
  else none

/-- Shows limits, or changes one. -/
def setLimit (arguments : List String) : Act Unit := do
  let letters := 'H' :: 'S' :: 'a' :: limitTitles.map (·.1)
  let (options, operands) ← takeFlags (String.ofList letters) arguments
  let sides := options.filter ['H', 'S'].contains
  let kind := (options.filter (limitTitles.map (·.1)).contains).getLastD 'f'
  let limits := (← process).limits
  let limitOf (letter : Char) : Limit := (limits.lookup letter).getD ⟨none, none⟩
  let line (letter : Char) : String :=
    let limit := limitOf letter
    ((if sides.getLast? = some 'H' then limit.hard else limit.soft).map toString).getD "unlimited"
  match operands with
  | [] =>
    if options.contains 'a' then
      say (String.join (limitTitles.map fun (letter, title) =>
        title ++ String.ofList (List.replicate (20 - title.length) ' ') ++ " " ++
          line letter ++ "\n")) 0
    else say (line kind ++ "\n") 0
  | [s] =>
    if options.contains 'a' then fail "too many arguments"
    match bound? s with
    | none => fail "bad number"
    | some bound =>
      let old := limitOf kind
      let changed : Limit :=
        match sides.getLast? with
        | some 'H' => { old with hard := bound }
        | some _ => { old with soft := bound }
        | none => ⟨bound, bound⟩
      let fault : Option Errno :=
        if exceeds changed.soft changed.hard then some .invalid
        else if exceeds changed.hard old.hard then some .notPermitted
        else none
      match fault with
      | some e => fail ("error setting limit (" ++ e.message ++ ")")
      | none =>
        change fun p =>
          { p with limits := (kind, changed) :: limits.filter (·.1 ≠ kind) }
        finish 0
  | _ => fail "too many arguments"

end PocketShell.Machine.Script
