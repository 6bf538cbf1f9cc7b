import PocketShell.Proofs.CommandLines

/-!
# What a request says of the command line

`CommandLines` reads requests off command lines of settings. This module goes the other way: help is
only shown where an argument asks for it, and the loop is only run, with a level or without one, on
command lines of settings (`exists_gives_of_parse`).

Among these, `Acceptable` says that the values may set the level. Two hyphens are no level, but when
they are attached they are taken away without a complaint, and `LosesLevel` are the command lines
on which nothing else is wrong.
-/

namespace PocketShell.Options

theorem setLevel_eq_ok_iff {value : String} {r r' : Reading} :
    r.setLevel value = .ok r' ↔
      ∃ l, LogLevel.named? value = some l ∧ r' = { r with level := .chosen l } := by
  cases hl : LogLevel.named? value <;> simp [Reading.setLevel, hl, eq_comm]

/-- Arguments that nothing accounts for stay so. -/
theorem isPrefix_unrecognized {forms : List (String × Argument)} {r r' : Reading}
    (h : readAll r forms = .ok (.on r')) : r.unrecognized <+: r'.unrecognized := by
  fun_induction readAll r forms with
  | case1 r =>
      cases h
      exact List.prefix_refl _
  | case2 r _ _ value rest ih =>
      obtain ⟨s, hs, hrest⟩ := bind_eq_ok_iff.mp h
      have hlater := ih s hrest
      obtain ⟨-, rfl⟩ := attachLevel_eq_ok_iff.mp hs
      exact hlater
  | case3 r _ _ value rest ih =>
      obtain ⟨s, hs, hrest⟩ := bind_eq_ok_iff.mp h
      have hlater := ih s hrest
      obtain ⟨_, _, rfl⟩ := setLevel_eq_ok_iff.mp hs
      exact hlater
  | case4 => cases h
  | case5 => cases h
  | case6 => cases h
  | case7 r _ flag _ _ rest _ _ _ _ s hs ih =>
      have hsame : r.unrecognized = s.unrecognized := by
        cases flag <;> cases hs <;> rfl
      rw [hsame]
      exact ih h
  | case8 r argument _ rest _ _ _ _ ih => exact (List.prefix_append _ _).trans (ih h)

/-- The forms of arguments that begin with the form of one of them. -/
theorem classifyAll_eq_cons {arguments : List String} {argument : String} {form : Argument}
    {forms : List (String × Argument)}
    (h : classifyAll arguments = .ok ((argument, form) :: forms)) :
    ∃ rest, arguments = argument :: rest ∧ (form = .divider ∨
      classify argument = .ok form ∧ classifyAll rest = .ok forms) := by
  fun_cases classifyAll arguments with
  | case1 => cases h
  | case2 rest =>
      cases h
      exact ⟨rest, rfl, Or.inl rfl⟩
  | case3 first rest hd =>
      obtain ⟨_, _, hform, hforms, heq⟩ := (classifyAll_cons_eq_ok_iff hd).mp h
      cases heq
      exact ⟨rest, rfl, Or.inr ⟨hform, hforms⟩⟩

theorem classifyAll_eq_nil {arguments : List String} (h : classifyAll arguments = .ok []) :
    arguments = [] := by
  fun_cases classifyAll arguments with
  | case1 => rfl
  | case2 => cases h
  | case3 first rest hd =>
      obtain ⟨_, _, -, -, heq⟩ := (classifyAll_cons_eq_ok_iff hd).mp h
      cases heq

/-- What is taken for an option is one of the arguments. -/
theorem mem_of_classifyAll {arguments : List String} {forms : List (String × Argument)}
    (h : classifyAll arguments = .ok forms) {argument : String} {flag : Flag} {isShort : Bool}
    {attached : Option String} (hmem : (argument, .option flag isShort attached) ∈ forms) :
    argument ∈ arguments ∧ classify argument = .ok (.option flag isShort attached) := by
  fun_induction classifyAll arguments generalizing forms with
  | case1 =>
      cases h
      cases hmem
  | case2 rest =>
      cases h
      simp at hmem
  | case3 first rest hd ih =>
      obtain ⟨form, hform, h⟩ := bind_eq_ok_iff.mp h
      obtain ⟨later, hlater, h⟩ := bind_eq_ok_iff.mp h
      cases h
      rcases List.mem_cons.mp hmem with heq | hmem
      · cases heq
        exact ⟨List.mem_cons_self, hform⟩
      · exact (ih hlater hmem).imp_left (List.mem_cons_of_mem first)

/-- Help is asked for by an option. -/
theorem exists_mem_of_readAll_help {forms : List (String × Argument)} {r : Reading}
    (h : readAll r forms = .ok .help) :
    ∃ argument isShort attached, (argument, .option .help isShort attached) ∈ forms := by
  fun_induction readAll r forms with
  | case1 => cases h
  | case2 r _ _ value rest ih =>
      obtain ⟨s, -, hrest⟩ := bind_eq_ok_iff.mp h
      obtain ⟨argument, short, attached, hmem⟩ := ih s hrest
      exact ⟨argument, short, attached, List.mem_cons_of_mem _ hmem⟩
  | case3 r _ _ value rest ih =>
      obtain ⟨s, -, hrest⟩ := bind_eq_ok_iff.mp h
      obtain ⟨argument, short, attached, hmem⟩ := ih s hrest
      exact ⟨argument, short, attached, by simp [hmem]⟩
  | case4 => cases h
  | case5 => cases h
  | case6 r argument flag short attached rest _ _ _ _ htake =>
      have hflag : flag = .help := by cases flag <;> first | rfl | cases htake
      subst hflag
      exact ⟨argument, short, attached, List.mem_cons_self⟩
  | case7 r _ flag _ _ rest _ _ _ _ s hs ih =>
      obtain ⟨argument, short, attached, hmem⟩ := ih h
      exact ⟨argument, short, attached, List.mem_cons_of_mem _ hmem⟩
  | case8 r argument _ rest _ _ _ _ ih =>
      obtain ⟨argument, short, attached, hmem⟩ := ih h
      exact ⟨argument, short, attached, List.mem_cons_of_mem _ hmem⟩

/-- An option without a value of its own takes none. -/
theorem unwanted_long (flag : Flag) (value : String) :
    unwanted flag false value = some (.unwantedValue flag value) := rfl

/-- Arguments that are read to their end, without one that nothing accounts for, are settings. -/
theorem exists_gives_of_readAll {arguments : List String} {forms : List (String × Argument)}
    {r r' : Reading} (hforms : classifyAll arguments = .ok forms)
    (h : readAll r forms = .ok (.on r')) (hnone : r'.unrecognized = []) :
    ∃ shows values, Gives arguments shows values := by
  fun_induction readAll r forms generalizing arguments with
  | case1 r =>
      obtain rfl := classifyAll_eq_nil hforms
      exact ⟨true, [], .nil⟩
  | case2 r _ _ value rest ih =>
      obtain ⟨s, hs, hrest⟩ := bind_eq_ok_iff.mp h
      obtain ⟨tail, rfl, hd | ⟨hclass, htail⟩⟩ := classifyAll_eq_cons hforms
      · cases hd
      · obtain ⟨shows, values, hgives⟩ := ih s htail hrest
        obtain ⟨-, ⟨hnone, -⟩ | ⟨spelling, v, -, rfl, hab⟩⟩ :=
          abbreviates_of_classify (by decide) hclass
        · cases hnone
        · exact ⟨shows, _, .attached hab hgives⟩
  | case3 r _ _ value rest ih =>
      obtain ⟨s, hs, hrest⟩ := bind_eq_ok_iff.mp h
      obtain ⟨l, hl, rfl⟩ := setLevel_eq_ok_iff.mp hs
      obtain ⟨tail, rfl, hd | ⟨hclass, htail⟩⟩ := classifyAll_eq_cons hforms
      · cases hd
      · obtain ⟨tail, rfl, hd | ⟨-, htail⟩⟩ := classifyAll_eq_cons htail
        · cases hd
        · obtain ⟨shows, values, hgives⟩ := ih _ htail hrest
          obtain ⟨-, ⟨-, hab⟩ | ⟨_, _, hv, -⟩⟩ := abbreviates_of_classify (by decide) hclass
          · exact ⟨shows, _, .separate hab (head?_of_named? hl) hgives⟩
          · cases hv
  | case4 => cases h
  | case5 => cases h
  | case6 => cases h
  | case7 r _ flag short attached rest hvalue _ hnovalue hunwanted s hs ih =>
      -- what takes no value, is not the option for the level and does not ask for help
      have hflag : flag = .noBanner := by
        cases flag with
        | help => cases hs
        | noBanner => rfl
        | logLevel =>
            cases attached with
            | none => exact absurd rfl (hnovalue rfl)
            | some v => exact absurd rfl (hvalue v rfl)
      subst hflag
      obtain ⟨tail, rfl, hd | ⟨hclass, htail⟩⟩ := classifyAll_eq_cons hforms
      · cases hd
      · obtain ⟨shows, values, hgives⟩ := ih htail h
        obtain ⟨rfl, ⟨-, hab⟩ | ⟨_, v, rfl, -⟩⟩ := abbreviates_of_classify (by decide) hclass
        · exact ⟨false, values, .noBanner hab hgives⟩
        · rw [Option.bind_some, unwanted_long] at hunwanted
          cases hunwanted
  | case8 r argument _ rest _ _ _ _ ih =>
      obtain ⟨later, hlater⟩ := isPrefix_unrecognized h
      rw [hnone] at hlater
      simp at hlater

/-- When all arguments are read, the level of the environment stands in for one that no option set,
then arguments that nothing accounts for are told, and then the level decides. -/
theorem finish_eq (environment : Option String) (r : Reading) :
    finish environment r =
      (if r.level = .unset then r.setLevel (defaultLevel environment) else .ok r) >>= fun r =>
        if r.unrecognized ≠ [] then .error (.unrecognized r.unrecognized)
        else match r.level with
          | .chosen l => .ok (.run r.showsBanner l)
          | _ => .ok .runWithoutLevel := by
  unfold finish
  dsimp only
  split <;> rfl

variable {environment : Option String}

/-- So a request that is made then is one for a run, and all arguments are accounted for. -/
theorem accounted_of_finish {r : Reading} {request : Request}
    (h : finish environment r = .ok request) : r.unrecognized = [] ∧ request ≠ .help := by
  rw [finish_eq] at h
  obtain ⟨s, hs, h⟩ := bind_eq_ok_iff.mp h
  have hsame : s.unrecognized = r.unrecognized := by
    split at hs
    · obtain ⟨_, _, rfl⟩ := setLevel_eq_ok_iff.mp hs
      rfl
    · cases hs
      rfl
  rw [← hsame]
  split at h
  · cases h
  · next hnone =>
      refine ⟨Decidable.not_not.mp hnone, ?_⟩
      split at h <;> cases h <;> simp

variable {arguments : List String}

/-- Only an argument that is an option for help makes the program show it. -/
theorem exists_of_parse_eq_help (h : parse environment arguments = .ok .help) :
    ∃ argument ∈ arguments, ∃ isShort attached,
      classify argument = .ok (.option .help isShort attached) := by
  obtain ⟨forms, hforms, h⟩ := bind_eq_ok_iff.mp h
  obtain ⟨progress, hread, h⟩ := bind_eq_ok_iff.mp h
  cases progress with
  | help =>
      obtain ⟨argument, isShort, attached, hmem⟩ := exists_mem_of_readAll_help hread
      obtain ⟨hargument, hclass⟩ := mem_of_classifyAll hforms hmem
      exact ⟨argument, hargument, isShort, attached, hclass⟩
  | on r => exact absurd rfl (accounted_of_finish h).2

/-- Whatever else is asked for without an error is asked for by settings. -/
theorem exists_gives_of_parse {request : Request} (h : parse environment arguments = .ok request)
    (hhelp : request ≠ .help) : ∃ shows values, Gives arguments shows values := by
  obtain ⟨forms, hforms, h⟩ := bind_eq_ok_iff.mp h
  obtain ⟨progress, hread, h⟩ := bind_eq_ok_iff.mp h
  cases progress with
  | help =>
      cases h
      exact absurd rfl hhelp
  | on r => exact exists_gives_of_readAll hforms hread (accounted_of_finish h).1

variable {shows : Bool} {values : List String}

/-- Whether values may set the level: all of them name one, and if there are none, the environment
does, unless it leaves the level alone. -/
structure Acceptable (environment : Option String) (values : List String) : Prop where
  ofValues : ∀ value ∈ values, (LogLevel.named? value).isSome
  ofEnvironment : values = [] → ∀ value ∈ environment, (LogLevel.named? value).isSome

/-- Command lines of settings on which two hyphens are given for a level and taken away, while all
other values name levels. -/
def LosesLevel (arguments : List String) : Prop :=
  ∃ shows values, Gives arguments shows values ∧ "--" ∈ values ∧
    ∀ value ∈ values, value = "--" ∨ (LogLevel.named? value).isSome

/-- Only an attached value can be two hyphens. -/
theorem Gives.exists_attached (h : Gives arguments shows values)
    (hmem : "--" ∈ values) :
    ∃ spelling, Abbreviates spelling .logLevel ∧ spelling ++ "=" ++ "--" ∈ arguments := by
  induction h with
  | nil => cases hmem
  | noBanner h later ih =>
      obtain ⟨spelling, hab, harg⟩ := ih hmem
      exact ⟨spelling, hab, List.mem_cons_of_mem _ harg⟩
  | separate h hvalue later ih =>
      obtain ⟨spelling, hab, harg⟩ :=
        ih ((List.mem_cons.mp hmem).resolve_left (ne_divider_of_head hvalue).symm)
      exact ⟨spelling, hab, by simp [harg]⟩
  | attached h later ih =>
      rcases List.mem_cons.mp hmem with rfl | hmem
      · exact ⟨_, h, List.mem_cons_self⟩
      · obtain ⟨spelling, hab, harg⟩ := ih hmem
        exact ⟨spelling, hab, List.mem_cons_of_mem _ harg⟩

theorem not_losesLevel
    (h : ∀ argument ∈ arguments, ¬ ['=', '-', '-'] <:+ argument.toList) :
    ¬ LosesLevel arguments := by
  rintro ⟨shows, values, hgives, hmem, -⟩
  obtain ⟨spelling, -, harg⟩ := hgives.exists_attached hmem
  exact h _ harg ⟨spelling.toList, by simp⟩

/-- A value is never two hyphens if it names a level. -/
theorem Acceptable.hyphens_not_mem (h : Acceptable environment values) : "--" ∉ values := by
  intro hmem
  have hsome := h.ofValues "--" hmem
  rw [named?_hyphens] at hsome
  cases hsome

/-- The level of a command line whose values may set it is that of the last value, or else that of
the environment. -/
theorem Acceptable.exists_level (h : Acceptable environment values) :
    ∃ level, LogLevel.named? (values.getLast?.getD (defaultLevel environment)) = some level := by
  apply Option.isSome_iff_exists.mp
  cases hlast : values.getLast? with
  | some value => exact h.ofValues value (List.mem_of_getLast? hlast)
  | none =>
      have hvalues := List.getLast?_eq_none_iff.mp hlast
      cases environment with
      | some value => exact h.ofEnvironment hvalues value rfl
      | none => exact (by decide +kernel : (LogLevel.named? LogLevel.warning.name).isSome)

/-- A command line of settings asks for a run if its values may set the level. -/
theorem Gives.exists_parse_eq_run (h : Gives arguments shows values)
    (hvalues : Acceptable environment values) :
    ∃ level, LogLevel.named? (values.getLast?.getD (defaultLevel environment)) = some level ∧
      parse environment arguments = .ok (.run shows level) := by
  obtain ⟨level, hl⟩ := hvalues.exists_level
  exact ⟨level, hl, h.parse_eq_ok_iff.mpr
    ⟨fun value hv => Or.inr (hvalues.ofValues value hv), Or.inr ⟨level, hl, rfl⟩⟩⟩

/-- What it asks for otherwise is refused, unless two hyphens are taken away. -/
theorem Gives.exists_parse_eq_error (h : Gives arguments shows values)
    (hloses : ¬ LosesLevel arguments) (hvalues : ¬ Acceptable environment values) :
    ∃ e, parse environment arguments = .error e := by
  cases hparse : parse environment arguments with
  | error e => exact ⟨e, rfl⟩
  | ok request =>
      obtain ⟨htaken, hlevel⟩ := h.parse_eq_ok_iff.mp hparse
      have hno : "--" ∉ values := fun hmem => hloses ⟨shows, values, h, hmem, htaken⟩
      refine absurd ⟨?_, ?_⟩ hvalues
      · intro value hv
        exact (htaken value hv).resolve_left fun heq => hno (heq ▸ hv)
      · rintro rfl value hv
        obtain ⟨hlast, -⟩ | ⟨level, hl, -⟩ := hlevel
        · cases hlast
        · cases hv
          exact Option.isSome_iff_exists.mpr ⟨level, hl⟩

/-- If two hyphens are among the values, nothing is refused as long as they are all taken, and the
last one decides. -/
theorem Gives.parse_of_taken (h : Gives arguments shows values) (hmem : "--" ∈ values)
    (htaken : ∀ value ∈ values, value = "--" ∨ (LogLevel.named? value).isSome)
    (environment : Option String) :
    values.getLast? = some "--" ∧ parse environment arguments = .ok .runWithoutLevel ∨
      ∃ level, values.getLast?.bind LogLevel.named? = some level ∧
        parse environment arguments = .ok (.run shows level) := by
  obtain ⟨last, hlast⟩ : ∃ last, values.getLast? = some last :=
    ⟨_, List.getLast?_eq_some_getLast (List.ne_nil_of_mem hmem)⟩
  rcases htaken last (List.mem_of_getLast? hlast) with rfl | hl
  · exact Or.inl ⟨hlast, h.parse_eq_ok_iff.mpr ⟨htaken, Or.inl ⟨hlast, rfl⟩⟩⟩
  · obtain ⟨level, hl⟩ := Option.isSome_iff_exists.mp hl
    refine Or.inr ⟨level, by rw [hlast]; exact hl, ?_⟩
    exact h.parse_eq_ok_iff.mpr ⟨htaken, Or.inr ⟨level, by rw [hlast]; exact hl, rfl⟩⟩

/-- A request for a run without a level comes from two hyphens that were taken away. -/
theorem losesLevel_of_parse (h : parse environment arguments = .ok .runWithoutLevel) :
    LosesLevel arguments := by
  obtain ⟨shows, values, hgives⟩ := exists_gives_of_parse h (by decide)
  obtain ⟨htaken, ⟨hlast, -⟩ | ⟨_, -, hrun⟩⟩ := hgives.parse_eq_ok_iff.mp h
  · exact ⟨shows, values, hgives, List.mem_of_getLast? hlast, htaken⟩
  · cases hrun

end PocketShell.Options
