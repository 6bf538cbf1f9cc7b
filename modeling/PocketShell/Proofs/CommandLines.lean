import PocketShell.Proofs.Spellings

/-!
# Command lines that set something

A command line can consist of nothing but settings: options that name a level, with the value
behind them or attached, and options against the banner. `Gives` says which command lines these
are, whatever their values are, and `Gives.parse_eq_ok_iff` what they ask for. `Sets` are those
whose values all name levels, and `Sets.parse_eq` says that they ask for a run, whatever the
environment says of the level.
-/

namespace PocketShell.Options

/-- Command lines of settings only: options against the banner, and options for the level, each with
a value behind it or attached. They come with whether they leave the banner to be shown, and with
their values in order. A value that is attached may be any text, and one that stands behind its
option has no hyphen in front. -/
inductive Gives : List String → Bool → List String → Prop
  | nil : Gives [] true []
  | noBanner {spelling rest shows values} (h : Abbreviates spelling .noBanner)
      (later : Gives rest shows values) : Gives (spelling :: rest) false values
  | separate {spelling value rest shows values} (h : Abbreviates spelling .logLevel)
      (hvalue : value.toList.head? ≠ some '-') (later : Gives rest shows values) :
      Gives (spelling :: value :: rest) shows (value :: values)
  | attached {spelling value rest shows values} (h : Abbreviates spelling .logLevel)
      (later : Gives rest shows values) :
      Gives ((spelling ++ "=" ++ value) :: rest) shows (value :: values)

/-- Command lines of settings whose values all name levels, with whether they leave the banner to be
shown, and with the level that they set, if they set one. Of several levels the last one counts. -/
inductive Sets : List String → Bool → Option LogLevel → Prop
  | nil : Sets [] true none
  | noBanner {spelling rest shows level} (h : Abbreviates spelling .noBanner)
      (later : Sets rest shows level) : Sets (spelling :: rest) false level
  | level {spelling value l rest shows level} (h : Abbreviates spelling .logLevel)
      (hl : LogLevel.named? value = some l) (later : Sets rest shows level) :
      Sets (spelling :: value :: rest) shows (level.or (some l))
  | attached {spelling value l rest shows level} (h : Abbreviates spelling .logLevel)
      (hl : LogLevel.named? value = some l) (later : Sets rest shows level) :
      Sets ((spelling ++ "=" ++ value) :: rest) shows (level.or (some l))

/-- A text that does not begin with a hyphen is a value. -/
theorem classify_of_head {value : String} (h : value.toList.head? ≠ some '-') :
    classify value = .ok .plain := by
  cases hv : value.toList with
  | nil => simp only [classify, hv]
  | cons c cs =>
      have hc : c ≠ '-' := by
        rintro rfl
        exact h (by rw [hv]; rfl)
      simp only [classify, hv]
      split <;> simp_all

theorem ne_divider_of_head {value : String} (h : value.toList.head? ≠ some '-') :
    value ≠ "--" := by
  rintro rfl
  exact h rfl

/-- A text that names a level does not begin with a hyphen, which stays one in upper case. -/
theorem head?_of_named? {value : String} {l : LogLevel} (h : LogLevel.named? value = some l) :
    value.toList.head? ≠ some '-' := by
  intro hhead
  obtain ⟨cs, hv⟩ := List.head?_eq_some_iff.mp hhead
  have hname := LogLevel.named?_eq_some_iff.mp h
  have hhyphen : (Text.upperCodes '-'.toNat).map Char.ofNat = ['-'] := by decide +kernel
  have hupper : l.name.toList.head? = some '-' := by
    rw [hname, Text.upper, hv, String.toList_ofList, List.flatMap_cons, hhyphen]
    rfl
  cases l <;> exact absurd hupper (by decide)

theorem bind_eq_ok_iff {ε α β : Type} {x : Except ε α} {f : α → Except ε β} {b : β} :
    (x >>= f) = .ok b ↔ ∃ a, x = .ok a ∧ f a = .ok b := by
  cases x <;> simp [bind, Except.bind]

/-- The form of an argument that is not the divider stands before the forms of those behind it. -/
theorem classifyAll_cons_eq_ok_iff {argument : String} (hd : argument ≠ "--")
    {rest : List String} {forms : List (String × Argument)} :
    classifyAll (argument :: rest) = .ok forms ↔
      ∃ form later, classify argument = .ok form ∧ classifyAll rest = .ok later ∧
        forms = (argument, form) :: later := by
  rw [classifyAll]
  · simp only [bind_eq_ok_iff, pure, Except.pure, Except.ok.injEq]
    constructor
    · rintro ⟨form, hform, later, hlater, rfl⟩
      exact ⟨form, later, hform, hlater, rfl⟩
    · rintro ⟨form, later, hform, hlater, rfl⟩
      exact ⟨form, hform, later, hlater, rfl⟩
  · exact hd

/-- The options of a command line of settings set the level to every value in turn. -/
theorem Gives.readAll_eq {arguments : List String} {shows : Bool} {values : List String}
    (h : Gives arguments shows values) :
    ∃ forms, classifyAll arguments = .ok forms ∧
      ∀ r : Reading, readAll r forms =
        (values.foldlM Reading.attachLevel { r with showsBanner := r.showsBanner && shows }).map
          .on := by
  -- the banner and the level are read apart, so it does not matter which one is set first
  have hcomm : ∀ (r : Reading) (value : String) (b : Bool),
      Reading.attachLevel { r with showsBanner := r.showsBanner && b } value =
        (r.attachLevel value).map fun r => { r with showsBanner := r.showsBanner && b } := by
    intro r value b
    simp only [Reading.attachLevel, Reading.setLevel]
    split
    · rfl
    · split <;> rfl
  induction h with
  | nil => exact ⟨[], rfl, fun r => by simp [readAll, pure, Except.pure, Except.map]⟩
  | @noBanner spelling rest shows values h later ih =>
      obtain ⟨forms, hforms, hread⟩ := ih
      have hd : spelling ≠ "--" := by simpa using h.append_ne_divider ""
      refine ⟨_, (classifyAll_cons_eq_ok_iff hd).mpr
        ⟨_, _, h.classify_eq (by decide), hforms, rfl⟩, ?_⟩
      intro r
      simp [readAll, Reading.take, hread]
  | @separate spelling value rest shows values h hvalue later ih =>
      obtain ⟨forms, hforms, hread⟩ := ih
      have hd : spelling ≠ "--" := by simpa using h.append_ne_divider ""
      have hplain := (classifyAll_cons_eq_ok_iff (ne_divider_of_head hvalue)).mpr
        ⟨_, _, classify_of_head hvalue, hforms, rfl⟩
      refine ⟨_, (classifyAll_cons_eq_ok_iff hd).mpr
        ⟨_, _, h.classify_eq (by decide), hplain, rfl⟩, ?_⟩
      intro r
      have hset : r.setLevel value = r.attachLevel value :=
        (if_neg (ne_divider_of_head hvalue)).symm
      rw [readAll, List.foldlM_cons, hcomm, hset]
      cases r.attachLevel value with
      | error e => rfl
      | ok r' => exact hread r'
  | @attached spelling value rest shows values h later ih =>
      obtain ⟨forms, hforms, hread⟩ := ih
      have hd : spelling ++ "=" ++ value ≠ "--" := by
        rw [String.append_assoc]
        exact h.append_ne_divider _
      refine ⟨_, (classifyAll_cons_eq_ok_iff hd).mpr
        ⟨_, _, h.classify_append (by decide) value, hforms, rfl⟩, ?_⟩
      intro r
      rw [readAll, List.foldlM_cons, hcomm]
      cases r.attachLevel value with
      | error e => rfl
      | ok r' => exact hread r'

/-- So such a command line is decided by its values, and by the environment if it has none. -/
theorem Gives.parse_eq {arguments : List String} {shows : Bool} {values : List String}
    (h : Gives arguments shows values) (environment : Option String) :
    parse environment arguments =
      values.foldlM Reading.attachLevel { Reading.start with showsBanner := shows } >>=
        finish environment := by
  obtain ⟨forms, hforms, hread⟩ := h.readAll_eq
  have hall := hread .start
  simp only [Reading.start, Bool.true_and] at hall
  simp only [parse, hforms, Reading.start, bind, Except.bind, hall]
  cases values.foldlM Reading.attachLevel _ <;> rfl

theorem named?_hyphens : LogLevel.named? "--" = none := by decide +kernel

/-- What is known of the level behind a value that is taken. -/
def choiceOf (value : String) : LevelChoice := (LogLevel.named? value).elim .lost .chosen

/-- An attached value is taken if it names a level, or if it is two hyphens. -/
theorem attachLevel_eq_ok_iff {value : String} {r r' : Reading} :
    r.attachLevel value = .ok r' ↔
      (value = "--" ∨ (LogLevel.named? value).isSome) ∧
        r' = { r with level := choiceOf value } := by
  by_cases hd : value = "--"
  · subst hd
    simp [Reading.attachLevel, choiceOf, named?_hyphens, eq_comm]
  · cases hl : LogLevel.named? value with
    | none => simp [Reading.attachLevel, Reading.setLevel, hd, hl]
    | some l =>
        have hset : r.attachLevel value = .ok { r with level := .chosen l } := by
          simp only [Reading.attachLevel, if_neg hd, Reading.setLevel, hl]
        have hchoice : choiceOf value = .chosen l := by rw [choiceOf, hl]; rfl
        rw [hset, hchoice, Except.ok.injEq]
        exact ⟨fun h => ⟨Or.inr rfl, h.symm⟩, fun h => h.2.symm⟩

/-- Of values that are attached one after the other all have to be taken, and the last one
stays. -/
theorem foldlM_attachLevel_eq_ok_iff {values : List String} {r r' : Reading} :
    values.foldlM Reading.attachLevel r = .ok r' ↔
      (∀ value ∈ values, value = "--" ∨ (LogLevel.named? value).isSome) ∧
        r' = { r with level := (values.getLast?.map choiceOf).getD r.level } := by
  induction values generalizing r with
  | nil => simpa [pure, Except.pure] using eq_comm
  | cons value values ih =>
      rw [List.foldlM_cons, bind_eq_ok_iff, List.forall_mem_cons, List.getLast?_cons]
      simp only [attachLevel_eq_ok_iff, ih]
      cases values.getLast? <;> simp [and_assoc]

theorem finish_chosen (environment : Option String) (shows : Bool) (l : LogLevel) :
    finish environment ⟨shows, .chosen l, []⟩ = .ok (.run shows l) := rfl

theorem finish_lost (environment : Option String) (shows : Bool) :
    finish environment ⟨shows, .lost, []⟩ = .ok .runWithoutLevel := rfl

/-- Without an option for the level, the environment has to name one, if it has the variable. -/
theorem finish_unset_eq_ok_iff {environment : Option String} {shows : Bool} {request : Request} :
    finish environment ⟨shows, .unset, []⟩ = .ok request ↔
      ∃ level, LogLevel.named? (defaultLevel environment) = some level ∧
        request = .run shows level := by
  cases hl : LogLevel.named? (defaultLevel environment) with
  | none => simp [finish, Reading.setLevel, hl, bind, Except.bind]
  | some l =>
      have hrun : finish environment ⟨shows, .unset, []⟩ = .ok (.run shows l) := by
        simp [finish, Reading.setLevel, hl, bind, Except.bind, pure, Except.pure]
      simp [hrun, eq_comm]

/-- What a command line of settings asks for, if all of its values are taken. -/
theorem Gives.parse_eq_ok_iff {arguments : List String} {shows : Bool} {values : List String}
    (h : Gives arguments shows values) {environment : Option String} {request : Request} :
    parse environment arguments = .ok request ↔
      (∀ value ∈ values, value = "--" ∨ (LogLevel.named? value).isSome) ∧
        (values.getLast? = some "--" ∧ request = .runWithoutLevel ∨
          ∃ level, LogLevel.named? (values.getLast?.getD (defaultLevel environment)) = some level ∧
            request = .run shows level) := by
  simp only [h.parse_eq, bind_eq_ok_iff, foldlM_attachLevel_eq_ok_iff, and_assoc,
    exists_and_left, exists_eq_left]
  apply and_congr_right
  intro hvalues
  cases hlast : values.getLast? with
  | none => simp [Reading.start, finish_unset_eq_ok_iff]
  | some value =>
      rcases hvalues value (List.mem_of_getLast? hlast) with rfl | hl
      · simp [named?_hyphens, choiceOf, Reading.start, finish_lost, eq_comm]
      · obtain ⟨l, hl⟩ := Option.isSome_iff_exists.mp hl
        have hd : value ≠ "--" := by
          rintro rfl
          rw [named?_hyphens] at hl
          cases hl
        simp [hl, hd, choiceOf, Reading.start, finish_chosen, eq_comm]

namespace Sets

/-- A level in front of others counts only if there are none. -/
theorem level_cons {value : String} {l : LogLevel} {values : List String}
    (hl : LogLevel.named? value = some l)
    (hvalues : ∀ value ∈ values, (LogLevel.named? value).isSome) :
    (value :: values).getLast?.bind LogLevel.named? =
      (values.getLast?.bind LogLevel.named?).or (some l) := by
  rw [List.getLast?_cons]
  cases hlast : values.getLast? with
  | none => exact hl
  | some last =>
      obtain ⟨l', hl'⟩ := Option.isSome_iff_exists.mp (hvalues last (List.mem_of_getLast? hlast))
      simp [hl']

/-- The values of such a command line name levels, and the level that is set is that of the last
one. -/
theorem exists_gives {arguments : List String} {shows : Bool} {level : Option LogLevel}
    (h : Sets arguments shows level) :
    ∃ values, Gives arguments shows values ∧
      (∀ value ∈ values, (LogLevel.named? value).isSome) ∧
      values.getLast?.bind LogLevel.named? = level := by
  induction h with
  | nil => exact ⟨[], .nil, by simp, rfl⟩
  | noBanner h later ih =>
      obtain ⟨values, hgives, hvalues, hlast⟩ := ih
      exact ⟨values, .noBanner h hgives, hvalues, hlast⟩
  | @level spelling value l rest shows level h hl later ih =>
      obtain ⟨values, hgives, hvalues, rfl⟩ := ih
      exact ⟨value :: values, .separate h (head?_of_named? hl) hgives,
        List.forall_mem_cons.mpr ⟨by simp [hl], hvalues⟩, level_cons hl hvalues⟩
  | @attached spelling value l rest shows level h hl later ih =>
      obtain ⟨values, hgives, hvalues, rfl⟩ := ih
      exact ⟨value :: values, .attached h hgives,
        List.forall_mem_cons.mpr ⟨by simp [hl], hvalues⟩, level_cons hl hvalues⟩

/-- A command line that sets a level asks for a run with that level, whatever level the
environment has, and with the banner unless it sets that too. -/
theorem parse_eq {arguments : List String} {shows : Bool} {level : LogLevel}
    (h : Sets arguments shows (some level)) (environment : Option String) :
    parse environment arguments = .ok (.run shows level) := by
  obtain ⟨values, hgives, hvalues, hlast⟩ := h.exists_gives
  obtain ⟨value, hvalue, hl⟩ := Option.bind_eq_some_iff.mp hlast
  apply hgives.parse_eq_ok_iff.mpr
  exact ⟨fun v hv => Or.inr (hvalues v hv), Or.inr ⟨level, by rw [hvalue]; exact hl, rfl⟩⟩

end Sets

end PocketShell.Options
