import PocketShell.Proofs.LineEnds
import PocketShell.Proofs.LogAndBanner
import PocketShell.Proofs.Requests
import PocketShell.Proofs.StandardRuns

/-!
# How the program ends

The program comes to its own end in one of three ways: it refuses its arguments and does nothing,
it shows the help that was asked for, or it runs the loop to its end. `Ending` names them,
`Program.EndsBy` says what can be seen of each, and `Program.EndsProperly` what a command line is to
come to: exactly one of them, and for a command line of settings a run exactly if all values name
levels.

There is a gap in this. Two hyphens that are attached to an option for the level are taken away and
set no level, without a complaint. `Program.endsProperly_iff` says that the program ends properly
on all command lines but those of settings on which this happens and no other value is refused.
-/

namespace PocketShell

open Text (Bytes encode)

namespace Loop

variable {W : Type u} {host : Host W} {handlers : Handlers}

/-- A run that no fault leaves closes the loop at its end. -/
theorem closing_isSuffix {sh : Shell W} {reads : List Read}
    (h : (converse host handlers sh reads).result = .ok ()) :
    closing <:+ (converse host handlers sh reads).events := by
  induction reads generalizing sh with
  | nil => exact List.suffix_append _ _
  | cons read reads ih =>
      rcases ht : turn host handlers sh read with ⟨_ | _ | fault, shell, events⟩
      · rw [converse_of_again ht] at h ⊢
        exact (ih h).trans (List.suffix_append _ _)
      · rw [converse_of_over ht]
        exact List.suffix_append _ _
      · rw [converse_of_escaped ht] at h
        cases h

/-- So the notice is the last that such a run puts into the output. -/
theorem notice_isSuffix {sh : Shell W} {reads : List Read}
    (h : (converse host handlers sh reads).result = .ok ()) :
    encode (shutdownNotice ++ "\n") <:+ (converse host handlers sh reads).events.inOrder := by
  obtain ⟨before, hevents⟩ := closing_isSuffix h
  have hclosing : Trace.inOrder closing = encode (shutdownNotice ++ "\n") := by
    simp [Trace.inOrder, closing]
  rw [← hevents, Trace.inOrder_append, hclosing]
  exact List.suffix_append _ _

/-- What a run puts into the output begins with a prompt. -/
theorem prompt_isPrefix (host : Host W) (handlers : Handlers) (sh : Shell W) (reads : List Read) :
    encode sh.session.prompt <+: (converse host handlers sh reads).events.inOrder := by
  obtain ⟨later, hevents⟩ := exists_converse_eq_ask host handlers sh reads
  have hask : Trace.inOrder (ask sh) = encode sh.session.prompt := by
    simp [Trace.inOrder, ask]
  rw [hevents, Trace.inOrder_append, hask]
  exact List.prefix_append _ _

end Loop

/-- The ways in which the program comes to its own end. -/
inductive Ending where
  | refused
  | helped
  | ran
  deriving DecidableEq, Repr

namespace Program

variable {W : Type u}

/-- A program that was started in a world and did nothing: it asked for no line, launched no
program and left the world as it was. -/
structure IsIdle (before : W) (program : Program W) : Prop where
  asksNothing : .asked ∉ program.trace
  launchesNothing : (program.effects before).launches = []
  keepsWorld : (program.effects before).world = before

variable (host : Host W) (world : W) (environment : Option String) (arguments : List String)
  (input : Bytes)

/-- What can be seen of a start of the program that ends in one of the ways: the exit code, what was
written and what was done. If the loop ran, it asked for a line and its output ends with the
notice. -/
def EndsBy (ending : Ending) : Prop :=
  let program := start host world environment arguments input
  match ending with
  | .refused => program.code? = some 2 ∧ program.output = [] ∧ program.IsIdle world
  | .helped =>
      (∃ argument ∈ arguments, ∃ isShort attached,
        Options.classify argument = .ok (.option .help isShort attached)) ∧
      program.code? = some 0 ∧ program.output = encode (Options.helpText environment) ∧
      program.IsIdle world
  | .ran =>
      .asked ∈ program.trace ∧ program.code? = some 0 ∧
      encode (shutdownNotice ++ "\n") <:+ program.output

/-- What a start of the program is to come to: exactly one of the endings, and on a command line of
settings a run or a refusal as the values say. A run has the level of the last value, or else of the
environment, or else `WARNING`, goes over the whole input, and may show the banner. -/
structure EndsProperly : Prop where
  unique : ∃ ending, EndsBy host world environment arguments input ending ∧
    ∀ other, EndsBy host world environment arguments input other → other = ending
  ran_iff : ∀ {shows values}, Options.Gives arguments shows values →
    (EndsBy host world environment arguments input .ran ↔ Options.Acceptable environment values)
  refused : ∀ {shows values}, Options.Gives arguments shows values →
    ¬ Options.Acceptable environment values →
    EndsBy host world environment arguments input .refused
  effective : ∀ {shows values}, Options.Gives arguments shows values →
    Options.Acceptable environment values →
    ∃ level,
      LogLevel.named? (values.getLast?.getD (Options.defaultLevel environment)) = some level ∧
      start host world environment arguments input =
        .ran level (Shell.startEvents defaultHome defaultIdentity)
          (Loop.run host .standard shows (Shell.start defaultHome defaultIdentity world)
            (Console.reads input)) ∧
      (encode (banner ++ "\n") <+: (start host world environment arguments input).output ↔
        shows = true)

variable {host world environment arguments input}

/-- The endings exclude each other: a refusal by its exit code, and a run by the line that it asked
for. -/
theorem EndsBy.eq {ending other : Ending} (h : EndsBy host world environment arguments input ending)
    (h' : EndsBy host world environment arguments input other) : ending = other := by
  have hcode : ∀ {code code' : Nat},
      (start host world environment arguments input).code? = some code →
      (start host world environment arguments input).code? = some code' → code = code' :=
    fun h h' => Option.some.inj (h.symm.trans h')
  cases ending with
  | refused =>
      cases other with
      | refused => rfl
      | helped => cases hcode h.1 h'.2.1
      | ran => cases hcode h.1 h'.2.1
  | helped =>
      cases other with
      | refused => cases hcode h.2.1 h'.1
      | helped => rfl
      | ran => exact absurd h'.1 h.2.2.2.asksNothing
  | ran =>
      cases other with
      | refused => cases hcode h.2.1 h'.1
      | helped => exact absurd h.1 h'.2.2.2.asksNothing
      | ran => rfl

theorem endsBy_refused {e : UsageError} (h : Options.parse environment arguments = .error e) :
    EndsBy host world environment arguments input .refused := by
  simp only [EndsBy, start, h]
  exact ⟨rfl, rfl, List.not_mem_nil, rfl, rfl⟩

theorem endsBy_helped (h : Options.parse environment arguments = .ok .help) :
    EndsBy host world environment arguments input .helped := by
  simp only [EndsBy, start, h]
  exact ⟨Options.exists_of_parse_eq_help h, rfl, rfl, List.not_mem_nil, rfl, rfl⟩

/-- A run comes to its end, where the notice is the last that is put into the output. -/
theorem endsBy_ran {shows : Bool} {level : LogLevel}
    (h : Options.parse environment arguments = .ok (.run shows level)) :
    EndsBy host world environment arguments input .ran := by
  let sh := Shell.start defaultHome defaultIdentity world
  have hresult : (Loop.converse host .standard sh (Console.reads input)).result = .ok () :=
    Loop.run_reads_eq_ok host shows sh input
  obtain ⟨later, hevents⟩ :=
    Loop.exists_converse_eq_ask host .standard sh (Console.reads input)
  simp only [EndsBy, start_of_parse host world h]
  refine ⟨?_, code?_ran_reads host level _ shows sh input, ?_⟩
  · simp [trace, Loop.run, hevents, Loop.ask, sh]
  · rw [output_ran]
    exact (Loop.notice_isSuffix hresult).trans (List.suffix_append _ _)

/-- Whatever is asked for but a run without a level comes to one of the endings. -/
theorem exists_endsBy (h : Options.parse environment arguments ≠ .ok .runWithoutLevel) :
    ∃ ending, EndsBy host world environment arguments input ending := by
  cases hparse : Options.parse environment arguments with
  | error e => exact ⟨.refused, endsBy_refused hparse⟩
  | ok request =>
      cases request with
      | help => exact ⟨.helped, endsBy_helped hparse⟩
      | run shows level => exact ⟨.ran, endsBy_ran hparse⟩
      | runWithoutLevel => exact absurd hparse h

/-- Without a level, the program breaks off in none of the ways. -/
theorem not_endsBy (h : Options.parse environment arguments = .ok .runWithoutLevel)
    (ending : Ending) : ¬ EndsBy host world environment arguments input ending := by
  cases ending <;> simp [EndsBy, start, h, code?]

/-- The output of a run begins with the banner if the banner is shown, and otherwise with the
prompt, which is no beginning of the banner. -/
theorem banner_isPrefix_iff (level : LogLevel) (shows : Bool) (reads : List Read) :
    encode (banner ++ "\n") <+: (Program.ran level (Shell.startEvents defaultHome defaultIdentity)
        (Loop.run host .standard shows (Shell.start defaultHome defaultIdentity world)
          reads)).output ↔ shows = true := by
  rw [output_ran]
  cases shows with
  | true =>
      rw [if_pos rfl]
      exact iff_of_true (List.prefix_append _ _) rfl
  | false =>
      rw [if_neg Bool.false_ne_true, List.nil_append]
      refine iff_of_false ?_ Bool.false_ne_true
      rintro ⟨rest, hbanner⟩
      obtain ⟨rest', hprompt⟩ := Loop.prompt_isPrefix host .standard
        (Shell.start defaultHome defaultIdentity world) reads
      have hedge : (encode bannerEdge).head? = some 0x2B := by decide +kernel
      have hguest : (encode (defaultIdentity ++ "$ ")).head? = some 0x67 := by decide +kernel
      have hhead := congrArg List.head? (hbanner.trans hprompt.symm)
      simp only [banner, Trace.encode_append, List.append_assoc, List.head?_append, hedge] at hhead
      change some 0x2B = ((encode (defaultIdentity ++ "$ ")).head?).or _ at hhead
      rw [hguest] at hhead
      cases hhead

/-- On a command line that loses no level, the program ends properly. -/
theorem endsProperly_of_not_losesLevel (hloses : ¬ Options.LosesLevel arguments) :
    EndsProperly host world environment arguments input := by
  have hrefuses : ∀ {shows values}, Options.Gives arguments shows values →
      ¬ Options.Acceptable environment values →
      EndsBy host world environment arguments input .refused := by
    intro shows values hgives hvalues
    obtain ⟨e, hparse⟩ := hgives.exists_parse_eq_error hloses hvalues
    exact endsBy_refused hparse
  refine ⟨?_, ?_, hrefuses, ?_⟩
  · obtain ⟨ending, hends⟩ := exists_endsBy (mt Options.losesLevel_of_parse hloses)
    exact ⟨ending, hends, fun _ hother => hother.eq hends⟩
  · intro shows values hgives
    constructor
    · intro hran
      apply Classical.byContradiction
      intro hvalues
      cases hran.eq (hrefuses hgives hvalues)
    · intro hvalues
      obtain ⟨level, -, hparse⟩ := hgives.exists_parse_eq_run hvalues
      exact endsBy_ran hparse
  · intro shows values hgives hvalues
    obtain ⟨level, hl, hparse⟩ := hgives.exists_parse_eq_run hvalues
    have hstart := start_of_parse host world hparse input
    refine ⟨level, hl, hstart, ?_⟩
    rw [hstart]
    exact banner_isPrefix_iff level shows _

/-- The program ends properly in all circumstances, unless its command line loses a level. There it
breaks off if the level is lost last, and otherwise runs with the level of the last value. -/
theorem endsProperly_iff (host : Host W) (world : W) (environment : Option String)
    (arguments : List String) (input : Bytes) :
    (EndsProperly host world environment arguments input ↔ ¬ Options.LosesLevel arguments) ∧
    ∀ shows values, Options.Gives arguments shows values → "--" ∈ values →
      (∀ value ∈ values, value = "--" ∨ (LogLevel.named? value).isSome) →
      let program := start host world environment arguments input
      values.getLast? = some "--" ∧ program = .unstarted noLevelReason ∨
        ∃ level, values.getLast?.bind LogLevel.named? = some level ∧
          program = .ran level (Shell.startEvents defaultHome defaultIdentity)
            (Loop.run host .standard shows (Shell.start defaultHome defaultIdentity world)
              (Console.reads input)) := by
  refine ⟨⟨?_, endsProperly_of_not_losesLevel⟩, ?_⟩
  · -- a value that is no level is to be refused, and this one is not
    rintro h ⟨shows, values, hgives, hmem, htaken⟩
    have hrefused := h.refused hgives fun hvalues => hvalues.hyphens_not_mem hmem
    rcases hgives.parse_of_taken hmem htaken environment with ⟨-, hparse⟩ | ⟨level, -, hparse⟩
    · exact not_endsBy hparse _ hrefused
    · cases hrefused.eq (endsBy_ran hparse)
  · intro shows values hgives hmem htaken program
    rcases hgives.parse_of_taken hmem htaken environment with ⟨hlast, hparse⟩ | ⟨level, hl, hparse⟩
    · exact Or.inl ⟨hlast, by simp only [program, start, hparse]⟩
    · exact Or.inr ⟨level, hl, start_of_parse host world hparse input⟩

/-- Two shortened options, one of them for a level that is named with a dotless letter, while the
level in the environment is none. -/
theorem endsProperly_of_dotless :
    let arguments := ["--log", "ınfo", "--no"]
    EndsProperly Host.removing ["/a"] (some "none") arguments (encode "rm /a\n") :=
  (endsProperly_iff _ _ _ _ _).1.mpr (Options.not_losesLevel (by decide))

/-- Two hyphens name no level, but attached to the option they are not refused, and the program
breaks off. -/
theorem not_endsProperly_of_hyphens :
    let arguments := ["--log-level=--"]
    Options.Gives arguments true ["--"] ∧ LogLevel.named? "--" = none ∧
    (∀ ending, ¬ EndsBy Host.removing ["/a"] none arguments (encode "rm /a\n") ending) ∧
    ¬ EndsProperly Host.removing ["/a"] none arguments (encode "rm /a\n") := by
  intro arguments
  have hlevel : Options.Abbreviates "--log-level" .logLevel := ⟨by decide, by decide⟩
  have hgives : Options.Gives arguments true ["--"] :=
    @Options.Gives.attached "--log-level" "--" [] true [] hlevel .nil
  have hparse : Options.parse none arguments = .ok .runWithoutLevel := by decide +kernel
  refine ⟨hgives, Options.named?_hyphens, not_endsBy hparse, ?_⟩
  intro h
  obtain ⟨ending, hends, -⟩ := h.unique
  exact not_endsBy hparse ending hends

end Program

end PocketShell
