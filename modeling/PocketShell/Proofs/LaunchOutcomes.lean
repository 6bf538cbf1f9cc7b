import Mathlib.Data.List.Forall2
import PocketShell.Proofs.Commands
import PocketShell.Proofs.OutcomeTexts

/-!
# What comes of a launch

A name stands for one path, or for one in every directory of the search path, and the first of them
that executes is the program. If none does, one of their errors is blamed. `firstOf_error_iff` and
`blames_blamed` describe the second case as `firstOf_ok_iff` does the first, and
`external_outcome` follows both through the command to what the user is told.

## Implementation notes

Nothing is assumed of the host: which paths execute, and why the others do not, is arbitrary. The
search path is given by the text that lists it, as a text always has an element.
-/

namespace PocketShell

/-- The error that is blamed for a launch, given the errors at all paths: the first that says more
than that nothing is there, or the last one if none does. -/
inductive Blames : List Errno → Errno → Prop
  | telling {before e after} (hbefore : ∀ d ∈ before, d = .noEntry ∨ d = .notDirectory)
      (he : e ≠ .noEntry ∧ e ≠ .notDirectory) : Blames (before ++ e :: after) e
  | last {before e} (hall : ∀ d ∈ before ++ [e], d = .noEntry ∨ d = .notDirectory) :
      Blames (before ++ [e]) e

theorem Errno.isAbsence_iff {e : Errno} :
    e.isAbsence = true ↔ e = .noEntry ∨ e = .notDirectory := by
  simp [isAbsence]

/-- Of the errors at one path or more, one is blamed. -/
theorem blames_blamed {es : List Errno} (h : es ≠ []) : Blames es (blamed es) := by
  cases hfind : es.find? (!·.isAbsence) with
  | some e =>
      obtain ⟨hp, before, after, rfl, hbefore⟩ := List.find?_eq_some_iff_append.mp hfind
      have he : ¬ (e = .noEntry ∨ e = .notDirectory) := by
        rw [← Errno.isAbsence_iff]
        simpa using hp
      have hblamed : blamed (before ++ e :: after) = e := by
        simp only [blamed, hfind, Option.getD_some]
      rw [hblamed]
      exact .telling (fun d hd => Errno.isAbsence_iff.mp (by simpa using hbefore d hd))
        (not_or.mp he)
  | none =>
      obtain ⟨before, e, rfl⟩ := (List.eq_nil_or_concat es).resolve_left h
      rw [List.concat_eq_append] at hfind ⊢
      have hblamed : blamed (before ++ [e]) = e := by
        simp only [blamed, hfind, Option.getD_none, List.getLast?_concat, Option.getD_some]
      rw [hblamed]
      refine .last fun d hd => Errno.isAbsence_iff.mp ?_
      simpa using List.find?_eq_none.mp hfind d hd

section FirstOf

variable {α : Type u} {attempt : String → Except Errno α} {paths : List String}

/-- The errors are those at the paths, one each. -/
theorem firstOf_error_iff {es : List Errno} :
    firstOf attempt paths = .error es ↔
      List.Forall₂ (fun path e => attempt path = .error e) paths es := by
  induction paths generalizing es with
  | nil => cases es <;> simp [firstOf]
  | cons path rest ih =>
      cases h : attempt path with
      | ok a => cases es <;> simp [firstOf, h]
      | error e =>
          cases hrest : firstOf attempt rest with
          | ok a =>
              cases es with
              | nil => simp [firstOf, h, hrest]
              | cons d ds => simp [firstOf, h, hrest, ← ih]
          | error ds =>
              cases es with
              | nil => simp [firstOf, h, hrest]
              | cons d ds => simp [firstOf, h, hrest, ← ih]

theorem exists_error_of_forall₂ {es : List Errno}
    (h : List.Forall₂ (fun path e => attempt path = .error e) paths es) :
    ∀ path ∈ paths, ∃ e, attempt path = .error e := by
  induction h with
  | nil => simp
  | cons he _ ih => exact List.forall_mem_cons.mpr ⟨⟨_, he⟩, ih⟩

/-- Either some path has a result, or all have errors. -/
theorem exists_firstOf (attempt : String → Except Errno α) (paths : List String) :
    (∃ before path after a, paths = before ++ path :: after ∧
      (∀ p ∈ before, ∃ e, attempt p = .error e) ∧ attempt path = .ok a ∧
      firstOf attempt paths = .ok a) ∨
    ∃ es, List.Forall₂ (fun path e => attempt path = .error e) paths es ∧
      firstOf attempt paths = .error es := by
  cases h : firstOf attempt paths with
  | ok a =>
      obtain ⟨before, path, after, heq, hpath, hbefore⟩ := firstOf_ok_iff.mp h
      exact Or.inl ⟨before, path, after, a, heq, hbefore, hpath, rfl⟩
  | error es => exact Or.inr ⟨es, firstOf_error_iff.mp h, rfl⟩

end FirstOf

/-- A zero character stands in a name or in an argument. -/
def HoldsZero (argv : List String) : Prop := ∃ s ∈ argv, '\x00' ∈ s.toList

theorem any_hasZero_iff {argv : List String} : argv.any hasZero = true ↔ HoldsZero argv := by
  simp [HoldsZero, hasZero]

/-- The paths that a name stands for, given the text that lists the directories: the name itself if
it has a slash, otherwise one path in each directory. A slash parts the directory from the name,
unless the directory is the current one or has a slash at its end. -/
def pathsOf (directories name : String) : List String :=
  if '/' ∈ name.toList then [name]
  else (SearchPath.elements directories).map fun directory =>
    if directory = "" ∨ directory.toList.getLast? = some '/' then directory ++ name
    else directory ++ "/" ++ name

theorem endsWith_slash_iff {s : String} :
    s.endsWith "/" = true ↔ s.toList.getLast? = some '/' := by
  rw [← String.endsWith_toSlice, String.Slice.endsWith_string_iff, String.copy_toSlice]
  constructor
  · rintro ⟨t, ht⟩
    rw [← ht]
    simp
  · intro h
    obtain ⟨t, ht⟩ := List.getLast?_eq_some_iff.mp h
    exact ⟨t, ht.symm⟩

/-- These are the paths that a launch tries. -/
theorem candidates_elements (directories name : String) :
    candidates (SearchPath.elements directories) name = pathsOf directories name := by
  simp only [candidates, pathsOf, List.contains_iff_mem, pathIn, Bool.or_eq_true,
    String.isEmpty_iff, endsWith_slash_iff]

/-- There is always a path to try. -/
theorem pathsOf_ne_nil (directories name : String) : pathsOf directories name ≠ [] := by
  simp only [pathsOf]
  split
  · simp
  · simp [SearchPath.elements, List.splitOn_ne_nil]

section Launch

variable {W : Type u} {host : Host W} {world : W} {name : String} {arguments : List String}

/-- What is launched was executed at one of the paths of its name. -/
theorem exists_execute_of_launch {run : Run W} (h : launch host world name arguments = .ok run) :
    ∃ path ∈ candidates host.searchPath name,
      host.execute world path (name :: arguments) = .ok run := by
  rw [launch] at h
  split at h
  · cases h
  · split at h
    · next hfirst =>
        obtain ⟨before, path, after, hpaths, hrun, -⟩ := firstOf_ok_iff.mp hfirst
        obtain rfl := Except.ok.inj h
        exact ⟨path, by simp [hpaths], hrun⟩
    · cases h

/-- A zero character is refused by every host alike. -/
theorem launch_of_holdsZero (h : HoldsZero (name :: arguments)) :
    launch host world name arguments = .error .zeroCharacter := by
  rw [launch, if_pos (any_hasZero_iff.mpr h)]

/-- Without one, the first path that executes is the program. -/
theorem launch_of_executes {directories : String}
    (hpaths : host.searchPath = SearchPath.elements directories)
    (hzero : ¬ HoldsZero (name :: arguments))
    (h : ∃ path ∈ pathsOf directories name,
      ∃ run, host.execute world path (name :: arguments) = .ok run) :
    ∃ before path after run, pathsOf directories name = before ++ path :: after ∧
      (∀ p ∈ before, ∃ e, host.execute world p (name :: arguments) = .error e) ∧
      host.execute world path (name :: arguments) = .ok run ∧
      launch host world name arguments = .ok run := by
  rcases exists_firstOf (host.execute world · (name :: arguments)) (pathsOf directories name) with
    ⟨before, path, after, run, heq, hbefore, hrun, hfirst⟩ | ⟨es, hes, -⟩
  · refine ⟨before, path, after, run, heq, hbefore, hrun, ?_⟩
    rw [launch, if_neg (mt any_hasZero_iff.mp hzero), hpaths, candidates_elements, hfirst]
  · obtain ⟨path, hpath, run, hrun⟩ := h
    obtain ⟨e, he⟩ := exists_error_of_forall₂ hes path hpath
    rw [hrun] at he
    cases he

/-- If none does, one of their errors is blamed. -/
theorem launch_of_refused {directories : String}
    (hpaths : host.searchPath = SearchPath.elements directories)
    (hzero : ¬ HoldsZero (name :: arguments))
    (h : ∀ path ∈ pathsOf directories name,
      ∃ e, host.execute world path (name :: arguments) = .error e) :
    ∃ es e, List.Forall₂ (fun path e => host.execute world path (name :: arguments) = .error e)
        (pathsOf directories name) es ∧
      Blames es e ∧ launch host world name arguments = .error (.refused e) := by
  rcases exists_firstOf (host.execute world · (name :: arguments)) (pathsOf directories name) with
    ⟨before, path, after, run, heq, -, hrun, -⟩ | ⟨es, hes, hfirst⟩
  · obtain ⟨e, he⟩ := h path (by simp [heq])
    rw [hrun] at he
    cases he
  · have hne : es ≠ [] := by
      rintro rfl
      exact pathsOf_ne_nil directories name (List.forall₂_nil_right_iff.mp hes)
    refine ⟨es, blamed es, hes, blames_blamed hne, ?_⟩
    rw [launch, if_neg (mt any_hasZero_iff.mp hzero), hpaths, candidates_elements, hfirst]

/-- So nothing is launched exactly if a zero character is refused, or every path. -/
theorem launch_eq_error_iff {directories : String}
    (hpaths : host.searchPath = SearchPath.elements directories) :
    (∃ e, launch host world name arguments = .error e) ↔
      HoldsZero (name :: arguments) ∨ ∀ path ∈ pathsOf directories name,
        ∃ e, host.execute world path (name :: arguments) = .error e := by
  by_cases hzero : HoldsZero (name :: arguments)
  · exact iff_of_true ⟨_, launch_of_holdsZero hzero⟩ (Or.inl hzero)
  · rw [or_iff_right hzero]
    constructor
    · rintro ⟨e, he⟩ path hpath
      cases hrun : host.execute world path (name :: arguments) with
      | error e => exact ⟨e, rfl⟩
      | ok run =>
          obtain ⟨-, -, -, run, -, -, -, hlaunched⟩ :=
            launch_of_executes hpaths hzero ⟨path, hpath, run, hrun⟩
          rw [he] at hlaunched
          cases hlaunched
    · intro h
      obtain ⟨-, e, -, -, he⟩ := launch_of_refused hpaths hzero h
      exact ⟨_, he⟩

end Launch

namespace Shell

variable {W : Type u}

/-- What a program that was launched does to the shell: it leaves a world behind, and its events
are those of its name, of the process, and of what it wrote. -/
theorem runExternal_of_ok {host : Host W} {sh : Shell W} {name : String} {arguments : List String}
    {run : Run W} (h : launch host sh.world name arguments = .ok run) :
    let step := sh.runExternal host name arguments
    step.shell = { sh with world := run.world } ∧
      step.events = .logged (.dispatched name false) :: .launching name arguments ::
        .logged (.spawned run.processName) ::
        run.writes.map (fun (stream, bytes) => .child stream bytes) ++
        [.logged (.exited run.status)] := by
  simp only [runExternal, h]
  exact ⟨rfl, rfl⟩

/-- A launch that failed leaves the shell as it is. -/
theorem runExternal_of_error {host : Host W} {sh : Shell W} {name : String}
    {arguments : List String} {e : LaunchError}
    (h : launch host sh.world name arguments = .error e) :
    let step := sh.runExternal host name arguments
    step.shell = sh ∧ step.events = [.logged (.dispatched name false), .launching name arguments,
      .logged (.notLaunched name e)] := by
  simp only [runExternal, h]
  exact ⟨rfl, rfl⟩

/-- What comes of an external command, for every host and every text of directories. A zero
character is refused, the first path that executes is the program, one error is blamed where none
does, and the text that is returned tells these cases apart. -/
theorem external_outcome (host : Host W) (directories : String) (handlers : Handlers) (sh : Shell W)
    (name : String) (arguments : List String) :
    let host := { host with searchPath := SearchPath.elements directories }
    let argv := name :: arguments
    let paths := pathsOf directories name
    let launched := launch host sh.world name arguments
    let step := sh.runExternal host name arguments
    step.result = .ok (describe name (outcomeOf launched)) ∧
    (HoldsZero argv →
      ∀ other : Host W, launch other sh.world name arguments = .error .zeroCharacter) ∧
    (¬ HoldsZero argv → (∃ path ∈ paths, ∃ run, host.execute sh.world path argv = .ok run) →
      ∃ before path after run, paths = before ++ path :: after ∧
        (∀ p ∈ before, ∃ e, host.execute sh.world p argv = .error e) ∧
        host.execute sh.world path argv = .ok run ∧ launched = .ok run) ∧
    (¬ HoldsZero argv → (∀ path ∈ paths, ∃ e, host.execute sh.world path argv = .error e) →
      ∃ es e, List.Forall₂ (fun path e => host.execute sh.world path argv = .error e) paths es ∧
        Blames es e ∧ launched = .error (.refused e)) ∧
    (∀ run, launched = .ok run →
      outcomeOf launched = .ok run.status ∧ step.shell = { sh with world := run.world } ∧
      step.events = .logged (.dispatched name false) :: .launching name arguments ::
        .logged (.spawned run.processName) ::
        run.writes.map (fun (stream, bytes) => .child stream bytes) ++
        [.logged (.exited run.status)]) ∧
    (∀ e, launched = .error e →
      outcomeOf launched = .error e ∧ step.shell = sh ∧
      step.events = [.logged (.dispatched name false), .launching name arguments,
        .logged (.notLaunched name e)]) ∧
    ((∀ b, Builtin.name b ≠ name) →
      let result := (sh.runWords host handlers argv).result
      (result = .ok ("[sh] command not found: " ++ name ++ "\n") ↔
        HoldsZero argv ∨ ∀ path ∈ paths, ∃ e, host.execute sh.world path argv = .error e) ∧
      (result = .ok "" ↔ ∃ run, launched = .ok run ∧ run.status = 0)) := by
  intro host argv paths launched step
  have hexecutes := @launch_of_executes W host sh.world name arguments directories rfl
  have hrefused := @launch_of_refused W host sh.world name arguments directories rfl
  refine ⟨rfl, fun h other => launch_of_holdsZero h, hexecutes, hrefused, ?_, ?_, ?_⟩
  · intro run h
    exact ⟨by rw [h]; rfl, runExternal_of_ok h⟩
  · intro e h
    exact ⟨by rw [h]; rfl, runExternal_of_error h⟩
  · intro hname result
    have hresult : result = .ok (describe name (outcomeOf launched)) := by
      simp only [result, argv,
        runWords_of_external host handlers sh (Builtin.named?_eq_none_iff.mpr hname)]
      rfl
    have hfails : (∃ e, outcomeOf launched = .error e) ↔ ∃ e, launched = .error e := by
      cases launched <;> simp [outcomeOf, Except.map]
    have hsilent : outcomeOf launched = .ok 0 ↔ ∃ run, launched = .ok run ∧ run.status = 0 := by
      cases launched <;> simp [outcomeOf, Except.map]
    rw [hresult, Except.ok.injEq, Except.ok.injEq, describe_eq_notFound_iff, describe_eq_empty_iff]
    exact ⟨hfails.trans (launch_eq_error_iff rfl), hsilent⟩

/-- The program stands in the last of three directories, which has a slash at its end. It removes a
file, is refused an argument with a zero character, and another name is not found. -/
theorem external_outcome_of_removal :
    let host := { Host.removing with
      searchPath := SearchPath.elements "/usr/bin::/bin/" }
    let sh := Shell.start "/" "root" ["/a"]
    pathsOf "/usr/bin::/bin/" "rm" = ["/usr/bin/rm", "rm", "/bin/rm"] ∧
    ¬ HoldsZero ["rm", "/a"] ∧ HoldsZero ["rm", "/a\x00"] ∧ (∀ b, Builtin.name b ≠ "mv") ∧
    (∃ run, launch host sh.world "rm" ["/a"] = .ok run ∧
      (sh.runExternal host "rm" ["/a"]).shell = { sh with world := run.world }) ∧
    (∀ other : Host (List String),
      launch other sh.world "rm" ["/a\x00"] = .error .zeroCharacter) ∧
    (∃ es e, List.length es = 3 ∧ Blames es e ∧
      launch host sh.world "mv" ["/a"] = .error (.refused e)) ∧
    (sh.runWords host .standard ["mv", "/a"]).result = .ok "[sh] command not found: mv\n" := by
  intro host sh
  have hremoves : pathsOf "/usr/bin::/bin/" "rm" = ["/usr/bin/rm", "rm", "/bin/rm"] := by
    decide +kernel
  have hmoves : pathsOf "/usr/bin::/bin/" "mv" = ["/usr/bin/mv", "mv", "/bin/mv"] := by
    decide +kernel
  have hplain : ¬ HoldsZero ["rm", "/a"] := by simp [HoldsZero]
  have hplain' : ¬ HoldsZero ["mv", "/a"] := by simp [HoldsZero]
  have hzero : HoldsZero ["rm", "/a\x00"] := by simp [HoldsZero]
  have hname : ∀ b, Builtin.name b ≠ "mv" := by
    intro b
    cases b <;> decide
  obtain ⟨-, -, hexecutes, -, hran, -, -⟩ :=
    external_outcome Host.removing "/usr/bin::/bin/" .standard sh "rm" ["/a"]
  obtain ⟨-, hrefuses, -, -, -, -, -⟩ :=
    external_outcome Host.removing "/usr/bin::/bin/" .standard sh "rm" ["/a\x00"]
  obtain ⟨-, -, -, hblames, -, -, htold⟩ :=
    external_outcome Host.removing "/usr/bin::/bin/" .standard sh "mv" ["/a"]
  rw [hremoves] at hexecutes
  rw [hmoves] at hblames htold
  have hnone : ∀ path ∈ ["/usr/bin/mv", "mv", "/bin/mv"],
      ∃ e, Host.removing.execute sh.world path ["mv", "/a"] = .error e := by
    simp [Host.removing]
  obtain ⟨before, path, after, run, -, -, -, hrun⟩ :=
    hexecutes hplain ⟨"/bin/rm", by simp, _, rfl⟩
  obtain ⟨es, e, herrors, he, hlaunched⟩ := hblames hplain' hnone
  exact ⟨hremoves, hplain, hzero, hname, ⟨run, hrun, (hran run hrun).2.1⟩, hrefuses hzero,
    ⟨es, e, herrors.length_eq.symm, he, hlaunched⟩, (htold hname).1.mpr (Or.inr hnone)⟩

/-- A slash does not always part the directory from the name: with a directory that has one at its
end, a name can be launched although nothing executes at the path with two. -/
theorem not_external_outcome_of_slash_at_end :
    ¬ ∀ (host : Host (List String)) (directories name : String) (arguments world : List String),
        '/' ∉ name.toList → ¬ HoldsZero (name :: arguments) →
        (∀ directory ∈ SearchPath.elements directories,
          ∃ e, host.execute world (if directory = "" then name else directory ++ "/" ++ name)
            (name :: arguments) = .error e) →
        ∃ e, launch { host with searchPath := SearchPath.elements directories } world name
          arguments = .error e := by
  intro h
  have helements : SearchPath.elements "/bin/" = ["/bin/"] := by decide +kernel
  have hpaths : pathsOf "/bin/" "rm" = ["/bin/rm"] := by decide +kernel
  have hplain : ¬ HoldsZero ["rm", "/a"] := by simp [HoldsZero]
  obtain ⟨e, he⟩ := h Host.removing "/bin/" "rm" ["/a"] ["/a"] (by decide) hplain (by
    rw [helements]
    simp [Host.removing])
  let host := { Host.removing with searchPath := SearchPath.elements "/bin/" }
  obtain ⟨-, -, -, run, -, -, -, hrun⟩ :=
    @launch_of_executes _ host ["/a"] "rm" ["/a"] "/bin/" rfl hplain
      ⟨"/bin/rm", by simp [hpaths], _, rfl⟩
  rw [hrun] at he
  cases he

end Shell

end PocketShell
