import PocketShell.Proofs.WorkingDirectory

/-!
# `cd`, `pwd` and `ls`

The three commands speak of one directory. `cd` keeps a path as it was typed, `pwd` shows it as it
was typed, and bare `ls` lists it as `ls` with the path does, whatever has become of the path in the
meantime. What `pwd` shows can be given back to `cd`: it takes the shell to where it is, or says
that the path is gone and leaves the shell there.

Main statement: `Shell.directory_commands_agree`.

## Implementation notes

What happens between is any history in which no line changes the directory. So it may hold every
built-in command but `cd`, a `cd` to a path that leads nowhere, and programs; it may also hold
changes of the world, and every line has a host of its own. The path that the shell is in can become
another thing, or nothing, at any time.
-/

namespace PocketShell.Shell

open Text (IsWord words words_append_feed words_of_isWord)

variable {W : Type u}

/-- A line lists a directory: it is `ls` with the path of the directory first, or bare `ls` in the
directory. -/
def Lists (sh : Shell W) (line path : String) : Prop :=
  (∃ rest, words line = "ls" :: path :: rest) ∨
    words line = ["ls"] ∧ path = sh.session.workingDirectory

section Commands

variable (host : Host W) (sh : Shell W)

/-- `pwd` shows the path as it was typed. -/
theorem execute_pwd {line : String} {arguments : List String}
    (hw : words line = "pwd" :: arguments) :
    (sh.execute host .standard line).result = .ok (sh.session.workingDirectory ++ "\n") ∧
      (sh.execute host .standard line).shell = sh := by
  have hw : words line = Builtin.pwd.name :: arguments := hw
  rw [execute_of_text host sh hw rfl]
  exact ⟨rfl, rfl⟩

variable {sh} in
/-- A line that lists a directory comes to what the listing of the directory does, whether it names
the directory or is executed in it. -/
theorem Lists.execute_eq {line path : String} (h : Lists sh line path) :
    (sh.execute host .standard line).result = (settle (sh.listDirectory host path)).1 ∧
      (sh.execute host .standard line).shell = sh := by
  obtain ⟨arguments, hw, hpath⟩ : ∃ arguments, words line = Builtin.ls.name :: arguments ∧
      arguments.headD sh.session.workingDirectory = path := by
    rcases h with ⟨rest, hw⟩ | ⟨hw, rfl⟩
    · exact ⟨path :: rest, hw, rfl⟩
    · exact ⟨[], hw, rfl⟩
  rw [execute_of_builtin host .standard sh hw, ← hpath]
  exact ⟨rfl, rfl⟩

variable {sh} in
/-- If the listing is a text, the line returns it. -/
theorem Lists.execute_of_text {line path text : String} (h : Lists sh line path)
    (hlisted : sh.listDirectory host path = .ok text) :
    (sh.execute host .standard line).result = .ok text ∧
      (sh.execute host .standard line).shell = sh := by
  obtain ⟨hresult, hshell⟩ := h.execute_eq host
  rw [hresult, hlisted]
  exact ⟨rfl, hshell⟩

/-- `cd` in front of a word, and in front of a word as `pwd` shows it, has the word as its only
argument. -/
theorem words_cd {t : String} (ht : IsWord t) :
    words ("cd " ++ t) = ["cd", t] ∧ words ("cd " ++ (t ++ "\n")) = ["cd", t] := by
  have hcd (s : String) : words ("cd " ++ s) = "cd" :: words s :=
    Builtin.cd.words_name_space s
  constructor
  · rw [hcd, words_of_isWord ht]
  · rw [hcd, words_append_feed, words_of_isWord ht]

/-- `cd` to what `pwd` shows leaves the shell as it is. It says so if the path leads nowhere. -/
theorem execute_cd_shown {t : String} (ht : IsWord t) (hin : sh.session.workingDirectory = t) :
    (sh.execute host .standard ("cd " ++ (t ++ "\n"))).shell = sh ∧
      (sh.pathExists host t = true →
        (sh.execute host .standard ("cd " ++ (t ++ "\n"))).result = .ok "") ∧
      (sh.pathExists host t = false →
        (sh.execute host .standard ("cd " ++ (t ++ "\n"))).result =
          .ok ("[sh] cd: " ++ t ++ ": No such file or directory\n")) := by
  obtain ⟨-, hw⟩ := words_cd ht
  by_cases hpath : sh.pathExists host t = true
  · have hmoves : Moves host sh ("cd " ++ (t ++ "\n")) t := ⟨[], hw, hpath⟩
    obtain ⟨hresult, hshell⟩ := hmoves.execute_eq
    refine ⟨?_, fun _ => hresult, fun h => absurd hpath (by simp [h])⟩
    rw [hshell, ← hin]
  · have hgone : sh.pathExists host t = false := by simpa using hpath
    obtain ⟨hresult, hshell⟩ := execute_cd_of_missing host sh hw hgone
    exact ⟨hshell, fun h => absurd h hpath, fun _ => hresult⟩

end Commands

/-- As long as no line changes the directory, `pwd` shows the one that the shell was in. -/
theorem Stays.pwd_eq {sh : Shell W} {history : List (Happening W)} (h : Stays sh history)
    (host : Host W) {line : String} {arguments : List String}
    (hw : words line = "pwd" :: arguments) :
    ((sh.after history).execute host .standard line).result =
      .ok (sh.session.workingDirectory ++ "\n") := by
  obtain ⟨hresult, -⟩ := execute_pwd host (sh.after history) hw
  rw [hresult, h.session_eq]

/-- A shell that was taken to a path is in the path, and has the home that it had, as long as no
line changes the directory. -/
theorem Moves.after_eq {mover : Host W} {sh : Shell W} {line path : String}
    (h : Moves mover sh line path) {later : List (Happening W)}
    (hstays : Stays (sh.execute mover .standard line).shell later) :
    let now := (sh.execute mover .standard line).shell.after later
    now.session.workingDirectory = path ∧ now.home = sh.home := by
  intro now
  obtain ⟨-, hmoved⟩ := h.execute_eq
  obtain ⟨hkept, -⟩ := after_keeps (sh.execute mover .standard line).shell later
  constructor
  · rw [hstays.session_eq, hmoved]
  · rw [hkept, hmoved]

/-- `cd`, `pwd` and `ls` agree on the directory until a line changes it: `pwd` shows the path as it
was typed, bare `ls` shows what `ls` does with the path, and `cd` back to what `pwd` returned keeps
the shell. -/
theorem directory_commands_agree (mover : Host W) (sh : Shell W) {t : String} (ht : IsWord t)
    (hexists : sh.pathExists mover t = true) {later : List (Happening W)}
    (hstays : Stays (sh.execute mover .standard ("cd " ++ t)).shell later) (host : Host W) :
    let moved := sh.execute mover .standard ("cd " ++ t)
    let now := moved.shell.after later
    moved.result = .ok "" ∧
    (∀ line arguments, words line = "pwd" :: arguments →
      (now.execute host .standard line).result = .ok (t ++ "\n") ∧
      (now.execute host .standard line).shell = now) ∧
    (∀ bare named rest, words bare = ["ls"] → words named = "ls" :: t :: rest →
      (now.execute host .standard bare).result = (now.execute host .standard named).result ∧
      (now.execute host .standard bare).shell = now ∧
      (now.execute host .standard named).shell = now) ∧
    (∀ output, (now.execute host .standard "pwd").result = .ok output →
      let again := now.execute host .standard ("cd " ++ output)
      again.shell = now ∧
      (now.pathExists host t = true → again.result = .ok "") ∧
      (now.pathExists host t = false →
        again.result = .ok ("[sh] cd: " ++ t ++ ": No such file or directory\n"))) ∧
    ∀ line, words line = ["cd"] →
      (now.execute host .standard line).result = .ok "" ∧
      ∀ behind, Stays (now.execute host .standard line).shell behind →
        ∀ (host' : Host W) line' arguments, words line' = "pwd" :: arguments →
          (((now.execute host .standard line).shell.after behind).execute host' .standard
            line').result = .ok (sh.home ++ "\n") := by
  intro moved now
  have hpwd : words "pwd" = ["pwd"] := words_of_isWord Builtin.pwd.isWord_name
  have hmoves : Moves mover sh ("cd " ++ t) t := ⟨[], (words_cd ht).1, hexists⟩
  obtain ⟨hin, hhome⟩ : now.session.workingDirectory = t ∧ now.home = sh.home :=
    hmoves.after_eq hstays
  refine ⟨hmoves.execute_eq.1, ?_, ?_, ?_, ?_⟩
  · intro line arguments hw
    have h := execute_pwd host now hw
    rwa [hin] at h
  · intro bare named rest hbare hnamed
    have hlists : Lists now bare t := Or.inr ⟨hbare, hin.symm⟩
    have hlists' : Lists now named t := Or.inl ⟨rest, hnamed⟩
    obtain ⟨hresult, hshell⟩ := hlists.execute_eq host
    obtain ⟨hresult', hshell'⟩ := hlists'.execute_eq host
    exact ⟨hresult.trans hresult'.symm, hshell, hshell'⟩
  · intro output houtput
    obtain ⟨hshown, -⟩ := execute_pwd host now hpwd
    obtain rfl : output = t ++ "\n" := by
      rw [houtput, hin] at hshown
      exact Except.ok.inj hshown
    exact execute_cd_shown host now ht hin
  · intro line hw
    obtain ⟨hresult, hshell⟩ := execute_bare_cd host now hw
    refine ⟨hresult, ?_⟩
    intro behind hbehind host' line' arguments hw'
    rw [hbehind.pwd_eq host' hw', hshell, hhome]

/-- A shell that was taken to a directory, whose directory was then taken away, and whose `cd` back
to it and to another path failed. It still shows the directory, lists it with an error, and names it
for `cd`. -/
theorem directory_commands_agree_of_removal :
    let sh := start "/" "root" ["/a/"]
    let later : List (Happening (List String)) :=
      [.executes .removing "whoami", .executes .removing "rm /a/",
        .executes .removing "cd /b", .executes .removing "ls", .changes ["/c"]]
    let moved := sh.execute .removing .standard ("cd " ++ "/a/")
    let now := moved.shell.after later
    IsWord "/a/" ∧ sh.pathExists .removing "/a/" = true ∧ Stays moved.shell later ∧
    (now.execute .removing .standard " pwd -P").result = .ok ("/a/" ++ "\n") ∧
    (now.execute .removing .standard "ls").result =
      (now.execute .removing .standard "ls /a/ -l").result ∧
    (now.execute .removing .standard "ls").result =
      .ok "[sh] ls: cannot open /a/: No such file or directory\n" ∧
    (now.execute .removing .standard ("cd " ++ ("/a/" ++ "\n"))).result =
      .ok "[sh] cd: /a/: No such file or directory\n" ∧
    (now.execute .removing .standard ("cd " ++ ("/a/" ++ "\n"))).shell = now := by
  intro sh later moved now
  have hword : IsWord "/a/" := by
    have hall : "/a/".toList.all (!Text.isBlank ·) = true := by decide +kernel
    exact ⟨by decide, fun c hc => by simpa using List.all_eq_true.mp hall c hc⟩
  have hexists : sh.pathExists .removing "/a/" = true := by decide +kernel
  have hstays : Stays moved.shell later := by decide +kernel
  obtain ⟨-, hpwd, hls, hback, -⟩ :=
    directory_commands_agree Host.removing sh hword hexists hstays .removing
  have hgone : now.pathExists .removing "/a/" = false := by decide +kernel
  have hbare : words "ls" = ["ls"] := by decide +kernel
  have hlists : Lists now "ls" "/a/" := Or.inr ⟨hbare, by decide +kernel⟩
  have hshown := hpwd "pwd" [] (by decide +kernel)
  have hagain := hback _ hshown.1
  refine ⟨hword, hexists, hstays, (hpwd " pwd -P" ["-P"] (by decide +kernel)).1,
    (hls "ls" "ls /a/ -l" ["-l"] hbare (by decide +kernel)).1, ?_, hagain.2.2 hgone, hagain.1⟩
  rw [(hlists.execute_eq Host.removing).1]
  rfl

end PocketShell.Shell
