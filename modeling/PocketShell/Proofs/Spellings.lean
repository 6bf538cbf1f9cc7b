import PocketShell.Options

/-!
# Spellings of options

A long option may be shortened as long as it goes beyond the two hyphens, because the long options
differ in the next letter. `Abbreviates` says which texts are such spellings. They are exactly what
is taken for the option, alone or with a value attached: `Abbreviates.classify_eq` and
`Abbreviates.classify_append` go from the spelling to the option, and `abbreviates_of_classify` goes
back.

## Implementation notes

An option has only finitely many spellings, and what is looked up for them is decided one by one in
`abbreviations`. The text of an attached value is arbitrary.
-/

namespace PocketShell.Options

/-- A way to write a long option: a beginning of its spelling that goes beyond the two
hyphens. -/
structure Abbreviates (spelling : String) (flag : Flag) : Prop where
  isPrefix : spelling.toList <+: flag.title.toList
  beyond : 2 < spelling.toList.length

theorem ne_equals_of_mem {cs : List Char} (h : '=' ∉ cs) : ∀ c ∈ cs, (c != '=') = true := by
  intro c hc
  simpa using fun heq : c = '=' => h (heq ▸ hc)

/-- Without an equals sign there is no value. -/
theorem splitValue_of_not_mem {cs : List Char} (h : '=' ∉ cs) : splitValue cs = (cs, none) := by
  have hdrop := @List.dropWhile_append_of_pos _ _ cs [] (ne_equals_of_mem h)
  simp only [List.append_nil, List.dropWhile_nil] at hdrop
  simp only [splitValue, hdrop]

/-- The first equals sign parts the name from the value. -/
theorem splitValue_append {cs : List Char} (h : '=' ∉ cs) (value : List Char) :
    splitValue (cs ++ '=' :: value) = (cs, some value) := by
  have hname := ne_equals_of_mem h
  simp [splitValue, List.dropWhile_append_of_pos hname, List.takeWhile_append_of_pos hname]

/-- No spelling of an option has an equals sign. -/
theorem spelled?_eq_none {cs : List Char} (h : '=' ∈ cs) : spelled? cs = none := by
  have hspellings : ∀ p ∈ Flag.spellings, '=' ∉ p.1.toList := by decide
  apply List.lookup_eq_none_iff.mpr
  intro p hp
  have hne : String.ofList cs ≠ p.1 := by
    intro heq
    apply hspellings p hp
    rw [← heq, String.toList_ofList]
    exact h
  simpa using hne

/-- What is looked up for the beginnings of a long option. -/
theorem abbreviations {flag : Flag} (hflag : flag ≠ .help) :
    ∀ n ∈ List.range (flag.title.toList.length + 1), 2 < n →
      (flag.title.toList.take n).take 2 = ['-', '-'] ∧ '=' ∉ flag.title.toList.take n ∧
        (spelled? (flag.title.toList.take n) = some flag ∨
          spelled? (flag.title.toList.take n) = none ∧
            startedBy (flag.title.toList.take n) = [flag]) := by
  cases flag with
  | help => exact absurd rfl hflag
  | noBanner => decide +kernel
  | logLevel => decide +kernel

namespace Abbreviates

variable {spelling : String} {flag : Flag}

/-- A shortened option has two hyphens in front and no equals sign, and it spells its option or
is a beginning of no other. -/
theorem spelled_or_startedBy (h : Abbreviates spelling flag) (hflag : flag ≠ .help) :
    (∃ rest, spelling.toList = '-' :: '-' :: rest) ∧ '=' ∉ spelling.toList ∧
      (spelled? spelling.toList = some flag ∨
        spelled? spelling.toList = none ∧ startedBy spelling.toList = [flag]) := by
  have htake := List.prefix_iff_eq_take.mp h.isPrefix
  have hlength := List.mem_range.mpr (Nat.lt_succ_of_le h.isPrefix.length_le)
  obtain ⟨hhyphens, hequals, hfound⟩ := abbreviations hflag _ hlength h.beyond
  rw [← htake] at hhyphens hequals hfound
  refine ⟨⟨spelling.toList.drop 2, ?_⟩, hequals, hfound⟩
  calc spelling.toList
    _ = spelling.toList.take 2 ++ spelling.toList.drop 2 := by simp
    _ = '-' :: '-' :: spelling.toList.drop 2 := by rw [hhyphens]; rfl

/-- A shortened option is taken for the option. -/
theorem classify_eq (h : Abbreviates spelling flag) (hflag : flag ≠ .help) :
    classify spelling = .ok (.option flag false none) := by
  obtain ⟨⟨rest, hrest⟩, hequals, hfound⟩ := h.spelled_or_startedBy hflag
  have hsplit := splitValue_of_not_mem hequals
  rw [hrest] at hsplit hfound
  rcases hfound with hspelled | ⟨hspelled, hstarted⟩
  · simp only [classify, hrest, hsplit, hspelled]
  · simp only [classify, hrest, hsplit, hspelled, hstarted, Option.map_none]

/-- So it is with a value attached, whatever the value is. -/
theorem classify_append (h : Abbreviates spelling flag) (hflag : flag ≠ .help)
    (value : String) :
    classify (spelling ++ "=" ++ value) = .ok (.option flag false (some value)) := by
  obtain ⟨⟨rest, hrest⟩, hequals, hfound⟩ := h.spelled_or_startedBy hflag
  have hlist : (spelling ++ "=" ++ value).toList = spelling.toList ++ '=' :: value.toList := by
    simp
  have hsplit := splitValue_append hequals value.toList
  have hwhole : spelled? (spelling.toList ++ '=' :: value.toList) = none :=
    spelled?_eq_none (by simp)
  rw [hrest] at hlist hsplit hfound hwhole
  rw [List.cons_append, List.cons_append] at hlist hsplit hwhole
  rcases hfound with hspelled | ⟨hspelled, hstarted⟩
  · simp only [classify, hlist, hsplit, hwhole, hspelled, Option.map_some, String.ofList_toList]
  · simp only [classify, hlist, hsplit, hwhole, hspelled, hstarted, Option.map_some,
      String.ofList_toList]

/-- A shortened option is never the divider, and neither is anything that begins with it. -/
theorem append_ne_divider (h : Abbreviates spelling flag) (tail : String) :
    spelling ++ tail ≠ "--" := by
  intro heq
  have hlength : spelling.toList.length + tail.toList.length = 2 := by
    rw [← List.length_append, ← String.toList_append, heq]
    rfl
  exact absurd h.beyond (by omega)

end Abbreviates

/-- A long option has one spelling. -/
theorem mem_spellings_iff {flag : Flag} (hflag : flag ≠ .help) {s : String} :
    (s, flag) ∈ Flag.spellings ↔ s = flag.title := by
  cases flag with
  | help => exact absurd rfl hflag
  | noBanner =>
      have htitle : Flag.noBanner.title = "--no-banner" := rfl
      simp [Flag.spellings, htitle]
  | logLevel =>
      have htitle : Flag.logLevel.title = "--log-level" := rfl
      simp [Flag.spellings, htitle]

theorem eq_title_of_spelled? {cs : List Char} {flag : Flag} (hflag : flag ≠ .help)
    (h : spelled? cs = some flag) : cs = flag.title.toList := by
  obtain ⟨before, after, heq, -⟩ := List.lookup_eq_some_iff.mp h
  have hmem : (String.ofList cs, flag) ∈ Flag.spellings := by
    rw [heq]
    simp
  rw [← (mem_spellings_iff hflag).mp hmem, String.toList_ofList]

/-- A long option that a text could be short for begins with the text. -/
theorem isPrefix_of_startedBy {cs : List Char} {flag : Flag} (hflag : flag ≠ .help)
    (h : startedBy cs = [flag]) : cs <+: flag.title.toList := by
  have hmem : flag ∈ startedBy cs := by simp [h]
  simp only [startedBy, List.mem_map, List.mem_filter] at hmem
  obtain ⟨⟨s, f⟩, ⟨hs, hstarts⟩, rfl⟩ := hmem
  rw [← (mem_spellings_iff hflag).mp hs]
  exact List.isPrefixOf_iff_prefix.mp hstarts

/-- A text that only one long option begins with goes beyond the two hyphens. -/
theorem abbreviates_of_startedBy {spelling : String} {flag : Flag} (hflag : flag ≠ .help)
    (h : startedBy spelling.toList = [flag]) : Abbreviates spelling flag := by
  have hbegins := isPrefix_of_startedBy hflag h
  have hhyphens : ∀ n ∈ List.range 3, startedBy (flag.title.toList.take n) ≠ [flag] := by
    cases flag with
    | help => exact absurd rfl hflag
    | noBanner | logLevel => decide +kernel
  refine ⟨hbegins, ?_⟩
  apply Nat.lt_of_not_le
  intro hlength
  have hn : spelling.toList.length ∈ List.range 3 := by
    rw [List.mem_range]
    omega
  apply hhyphens _ hn
  rw [← List.prefix_iff_eq_take.mp hbegins, h]

/-- The whole spelling is one way to write a long option. -/
theorem abbreviates_title {flag : Flag} (hflag : flag ≠ .help) : Abbreviates flag.title flag := by
  refine ⟨List.prefix_refl _, ?_⟩
  cases flag with
  | help => exact absurd rfl hflag
  | noBanner | logLevel => decide

/-- Of a text, the name is what stands before the first equals sign. -/
theorem splitValue_cases (cs : List Char) :
    ('=' ∉ cs ∧ splitValue cs = (cs, none)) ∨
      ∃ name value, cs = name ++ '=' :: value ∧ splitValue cs = (name, some value) := by
  by_cases h : '=' ∈ cs
  · obtain ⟨name, value, rfl, hname⟩ := List.eq_append_cons_of_mem h
    exact Or.inr ⟨name, value, rfl, splitValue_append hname value⟩
  · exact Or.inl ⟨h, splitValue_of_not_mem h⟩

/-- A long option has two hyphens in front. -/
theorem exists_title_eq {flag : Flag} (hflag : flag ≠ .help) :
    ∃ tail, flag.title.toList = '-' :: '-' :: tail := by
  obtain ⟨tail, htail⟩ : ['-', '-'] <+: flag.title.toList := by
    cases flag with
    | help => exact absurd rfl hflag
    | noBanner | logLevel => decide
  exact ⟨tail, htail.symm⟩

/-- A text that spells a long option is one way to write it. -/
theorem abbreviates_of_spelled? {spelling : String} {flag : Flag} (hflag : flag ≠ .help)
    (h : spelled? spelling.toList = some flag) : Abbreviates spelling flag := by
  obtain rfl := String.toList_inj.mp (eq_title_of_spelled? hflag h)
  exact abbreviates_title hflag

/-- The name stands in front. -/
theorem isPrefix_splitValue (cs : List Char) : (splitValue cs).1 <+: cs := by
  unfold splitValue
  split
  · exact List.prefix_refl _
  · exact List.takeWhile_prefix _

/-- What fits no option is none. -/
theorem leftOver_ne_option (cs : List Char) (flag : Flag) (isShort : Bool)
    (attached : Option String) : leftOver cs ≠ .option flag isShort attached := by
  unfold leftOver
  split <;> simp

/-- What is taken for a long option has two hyphens in front. -/
theorem exists_eq_of_classify {argument : String} {flag : Flag} {isShort : Bool}
    {attached : Option String} (hflag : flag ≠ .help)
    (h : classify argument = .ok (.option flag isShort attached)) :
    ∃ rest, argument.toList = '-' :: '-' :: rest := by
  obtain ⟨tail, htail⟩ := exists_title_eq hflag
  -- whatever spells the option stands at the beginning of the argument
  have hspelled : ∀ {cs : List Char}, cs <+: argument.toList → spelled? cs = some flag →
      ∃ rest, argument.toList = '-' :: '-' :: rest := by
    rintro cs ⟨rest, hrest⟩ hs
    rw [eq_title_of_spelled? hflag hs, htail] at hrest
    exact ⟨tail ++ rest, hrest.symm⟩
  simp only [classify] at h
  split at h
  · cases h
  · cases h
  · next hcs => exact ⟨_, hcs⟩
  · next c rest _ hcs =>
      split at h
      · next hs =>
          cases h
          exact hspelled (List.prefix_refl _) hs
      · next hs =>
          cases h
          exact hspelled (isPrefix_splitValue _) hs
      · next hs =>
          cases h
          exact hspelled (by simp [hcs]) hs
      · exact absurd (Except.ok.inj h) (leftOver_ne_option _ _ _ _)
  · cases h

/-- What decides that an argument with two hyphens in front is an option: the whole of it, or its
name. -/
theorem spelled_or_started_of_classify {argument : String} {rest : List Char} {flag : Flag}
    {isShort : Bool} {attached : Option String} (hrest : argument.toList = '-' :: '-' :: rest)
    (h : classify argument = .ok (.option flag isShort attached)) :
    isShort = false ∧ (spelled? argument.toList = some flag ∧ attached = none ∨
      (spelled? (splitValue argument.toList).1 = some flag ∨
          startedBy (splitValue argument.toList).1 = [flag]) ∧
        attached = (splitValue argument.toList).2.map String.ofList) := by
  rw [hrest]
  simp only [classify, hrest] at h
  split at h
  · next hs =>
      cases h
      exact ⟨rfl, Or.inl ⟨hs, rfl⟩⟩
  · next hs =>
      cases h
      exact ⟨rfl, Or.inr ⟨Or.inl hs, rfl⟩⟩
  · next hs =>
      cases h
      exact ⟨rfl, Or.inr ⟨Or.inr hs, rfl⟩⟩
  · exact absurd (Except.ok.inj h) (leftOver_ne_option _ _ _ _)
  · cases h

/-- What is taken for a long option is a way to write it, alone or with a value attached. -/
theorem abbreviates_of_classify {argument : String} {flag : Flag} {isShort : Bool}
    {attached : Option String} (hflag : flag ≠ .help)
    (h : classify argument = .ok (.option flag isShort attached)) :
    isShort = false ∧ (attached = none ∧ Abbreviates argument flag ∨
      ∃ spelling value, attached = some value ∧ argument = spelling ++ "=" ++ value ∧
        Abbreviates spelling flag) := by
  obtain ⟨rest, hrest⟩ := exists_eq_of_classify hflag h
  have hname : ∀ {name : String}, spelled? name.toList = some flag ∨
      startedBy name.toList = [flag] → Abbreviates name flag := fun hname =>
    hname.elim (abbreviates_of_spelled? hflag) (abbreviates_of_startedBy hflag)
  obtain ⟨rfl, hforms⟩ := spelled_or_started_of_classify hrest h
  refine ⟨rfl, ?_⟩
  rcases hforms with ⟨hs, rfl⟩ | ⟨hs, rfl⟩
  · exact Or.inl ⟨rfl, hname (Or.inl hs)⟩
  · rcases splitValue_cases argument.toList with ⟨-, hsplit⟩ | ⟨name, value, heq, hsplit⟩
    · rw [hsplit] at hs ⊢
      exact Or.inl ⟨rfl, hname hs⟩
    · rw [hsplit] at hs ⊢
      refine Or.inr ⟨String.ofList name, String.ofList value, rfl, ?_, hname (by simpa using hs)⟩
      rw [← String.toList_inj, heq]
      simp

end PocketShell.Options
