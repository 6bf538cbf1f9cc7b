import PocketShell.Machine.Utility.Request

/-!
# Parts of paths

The utilities that take paths apart without looking at the files.
-/

namespace PocketShell.Machine.Utility

open Job

/-- A path without the slashes at its end. -/
def withoutEnd (path : String) : String :=
  let cs := (path.toList.reverse.dropWhile (· == '/')).reverse
  if cs.isEmpty && !path.isEmpty then "/" else String.ofList cs

/-- The last step of a path, without an ending. -/
def lastStep (ending path : String) : String :=
  let path := withoutEnd path
  let name := if path = "/" then path else (path.splitOn "/").getLastD ""
  if name ≠ ending && name.endsWith ending then (name.dropEnd ending.length).toString else name

/-- The mark behind every name. -/
def nameEnd (r : Request) : String := if r.has 'z' then "\x00" else "\n"

/-- The options of `basename`. -/
def basenameChoices : List Choice :=
  [.flag 'a' ["multiple"], .withValue 's' ["suffix"], .flag 'z' ["zero"]]

/-- Writes the last step of a path, without an ending. -/
def basenameJob : Job Int :=
  withLeadingOptions basenameChoices fun r =>
    needOperand r.operands "missing operand" do
      let lines (ending : String) (paths : List String) : String :=
        String.join (paths.map fun path => lastStep ending path ++ nameEnd r)
      if r.has 'a' || r.has 's' then say (lines ((r.value? 's').getD "") r.operands) 0
      else if 2 < r.operands.length then
        misuse ("extra operand " ++ curly (r.operands.getD 2 ""))
      else say (lines (r.operands.getD 1 "") (r.operands.take 1)) 0

/-- The directory part of a path. -/
def directoryOf (path : String) : String :=
  let path := withoutEnd path
  if path = "/" then path
  else if !path.toList.contains '/' then "."
  else
    let above := (path.toList.reverse.dropWhile (· != '/')).reverse
    withoutEnd (String.ofList above)

/-- Writes the directory parts of paths. -/
def dirnameJob : Job Int :=
  withRequest [.flag 'z' ["zero"]] fun r =>
    needOperand r.operands "missing operand" do
      say (String.join (r.operands.map fun s => directoryOf s ++ nameEnd r)) 0

end PocketShell.Machine.Utility
