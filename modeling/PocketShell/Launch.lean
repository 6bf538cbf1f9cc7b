import PocketShell.Host

/-!
# Launching programs

A program is called by a path or by a bare name. A bare name stands for one path in every
directory of the search path, and the first path that can be executed is.

Main definitions: `SearchPath.elements`, the directories of a search path; `candidates`, the paths
in the order in which they are tried; `firstOf`, the first that can be executed; `blamed`, the error
that is reported when none can.
-/

namespace PocketShell

/-- The directories that a text lists, with colons between them. -/
def SearchPath.elements (path : String) : List String :=
  (path.toList.splitOn ':').map String.ofList

/-- The path of a name in a directory. An empty directory is the current one, and one that ends
in a slash gets no other. -/
def pathIn (directory name : String) : String :=
  if directory.isEmpty || directory.endsWith "/" then directory ++ name
  else directory ++ "/" ++ name

/-- The paths that a name stands for: itself if it has a slash, otherwise one in each
directory of the search path. -/
def candidates (searchPath : List String) (name : String) : List String :=
  if name.toList.contains '/' then [name] else searchPath.map (pathIn · name)

/-- The result at the first path where there is one, or the errors at all the paths. -/
def firstOf (attempt : String → Except Errno α) : List String → Except (List Errno) α
  | [] => .error []
  | path :: rest =>
    match attempt path with
    | .ok a => .ok a
    | .error e =>
      match firstOf attempt rest with
      | .ok a => .ok a
      | .error es => .error (e :: es)

/-- Of the errors at all the paths, the first that says more than that nothing is there, and
the last one if none does. -/
def blamed (errors : List Errno) : Errno :=
  (errors.find? (!·.isAbsence)).getD (errors.getLast?.getD .noEntry)

/-- Why a program was not launched. -/
inductive LaunchError where
  /-- A zero character stands in the name or in an argument. -/
  | zeroCharacter
  /-- The system refused every candidate. -/
  | refused (e : Errno)
  deriving DecidableEq, Repr

/-- Whether a text has a zero character, which no path and no argument can hold. -/
def hasZero (s : String) : Bool := s.toList.contains '\x00'

/-- The outcome of an external command: its status, or why it was not launched. -/
abbrev Outcome := Except LaunchError Int

/-- Launches a program by its name with arguments and waits until it has run. -/
def launch (host : Host W) (world : W) (name : String) (arguments : List String) :
    Except LaunchError (Run W) :=
  if (name :: arguments).any hasZero then .error .zeroCharacter
  else
    match firstOf (host.execute world · (name :: arguments)) (candidates host.searchPath name)
    with
    | .ok run => .ok run
    | .error es => .error (.refused (blamed es))

/-- The outcome of a launch. -/
def outcomeOf (result : Except LaunchError (Run W)) : Outcome := result.map (·.status)

/-- What the shell tells of the outcome of an external command. Success is silent. -/
def describe (name : String) : Outcome → String
  | .error _ => "[sh] command not found: " ++ name ++ "\n"
  | .ok status =>
    if status = 0 then ""
    else if status < 0 then
      "[sh] command exited with status: signal " ++ toString (-status) ++ "\n"
    else "[sh] command exited with status: " ++ toString status ++ "\n"

theorem describe_error (name : String) (e : LaunchError) :
    describe name (.error e) = "[sh] command not found: " ++ name ++ "\n" := rfl

theorem describe_ok (name : String) (status : Int) :
    describe name (.ok status) =
      if status = 0 then ""
      else if status < 0 then
        "[sh] command exited with status: signal " ++ toString (-status) ++ "\n"
      else "[sh] command exited with status: " ++ toString status ++ "\n" := rfl

/-- The first result is that of the first path that has one. -/
theorem firstOf_ok_iff {attempt : String → Except Errno α} {paths : List String} {a : α} :
    firstOf attempt paths = .ok a ↔
      ∃ before path after, paths = before ++ path :: after ∧ attempt path = .ok a ∧
        ∀ p ∈ before, ∃ e, attempt p = .error e := by
  induction paths with
  | nil => simp [firstOf]
  | cons path rest ih =>
    cases h : attempt path with
    | ok b =>
      simp only [firstOf, h]
      constructor
      · intro hb
        obtain rfl : b = a := by simpa using hb
        exact ⟨[], path, rest, rfl, h, by simp⟩
      · rintro ⟨before, p, after, heq, hp, hall⟩
        cases before with
        | nil =>
          obtain ⟨rfl, rfl⟩ := List.cons.inj heq
          simpa [h] using hp
        | cons q before =>
          obtain ⟨rfl, -⟩ := List.cons.inj heq
          obtain ⟨e, he⟩ := hall path (by simp)
          simp [h] at he
    | error e =>
      have step : firstOf attempt (path :: rest) = .ok a ↔ firstOf attempt rest = .ok a := by
        simp only [firstOf, h]
        cases firstOf attempt rest <;> simp
      rw [step, ih]
      constructor
      · rintro ⟨before, p, after, rfl, hp, hall⟩
        refine ⟨path :: before, p, after, rfl, hp, ?_⟩
        intro q hq
        rcases List.mem_cons.1 hq with rfl | hq
        · exact ⟨e, h⟩
        · exact hall q hq
      · rintro ⟨before, p, after, heq, hp, hall⟩
        cases before with
        | nil =>
          obtain ⟨rfl, rfl⟩ := List.cons.inj heq
          simp [h] at hp
        | cons q before =>
          obtain ⟨rfl, rfl⟩ := List.cons.inj heq
          exact ⟨before, p, after, rfl, hp, fun q hq => hall q (by simp [hq])⟩

end PocketShell
