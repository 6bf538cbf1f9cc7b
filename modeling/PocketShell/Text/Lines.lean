/-!
# Lines

A run of characters or bytes cut behind every mark of an end, and the lines that it is cut into.
-/

namespace PocketShell.Text

/-- Cuts a list behind every element for which `p` holds. -/
def splitAfter (p : α → Bool) : List α → List (List α)
  | [] => []
  | a :: as =>
    if p a then [a] :: splitAfter p as
    else
      match splitAfter p as with
      | [] => [[a]]
      | piece :: pieces => (a :: piece) :: pieces

/-- A line of a run: it ends in a mark, and there is no other mark in it. -/
def IsLine (p : α → Bool) (l : List α) : Prop :=
  ∃ body a, l = body ++ [a] ∧ (∀ x ∈ body, p x = false) ∧ p a = true

section Pieces

variable {p : α → Bool}

/-- Without a mark there is nothing to cut. -/
theorem splitAfter_of_forall {as : List α} (h : ∀ x ∈ as, p x = false) (hne : as ≠ []) :
    splitAfter p as = [as] := by
  induction as with
  | nil => exact absurd rfl hne
  | cons a as ih =>
    have ha : ¬ p a = true := by simp [h a]
    cases as with
    | nil => simp [splitAfter, ha]
    | cons b as =>
      have htail := ih (fun x hx => h x (List.mem_cons_of_mem _ hx)) (by simp)
      rw [splitAfter, if_neg ha, htail]

/-- A line in front is a piece of its own. -/
theorem IsLine.splitAfter_append {l : List α} (h : IsLine p l) (as : List α) :
    splitAfter p (l ++ as) = l :: splitAfter p as := by
  obtain ⟨body, a, rfl, hbody, ha⟩ := h
  induction body with
  | nil => simp [splitAfter, ha]
  | cons b body ih =>
    have hb : ¬ p b = true := by simp [hbody b]
    have htail := ih fun x hx => hbody x (List.mem_cons_of_mem _ hx)
    rw [List.cons_append, List.cons_append, splitAfter, if_neg hb, htail]

/-- So are several lines in front. -/
theorem splitAfter_flatten_append {ls : List (List α)} (h : ∀ l ∈ ls, IsLine p l)
    (as : List α) : splitAfter p (ls.flatten ++ as) = ls ++ splitAfter p as := by
  induction ls with
  | nil => rfl
  | cons l ls ih =>
    have hl := h l List.mem_cons_self
    have hls := ih fun k hk => h k (List.mem_cons_of_mem _ hk)
    rw [List.flatten_cons, List.append_assoc, hl.splitAfter_append, hls, List.cons_append]

/-- Lines that are put together come apart again. -/
theorem splitAfter_flatten {ls : List (List α)} (h : ∀ l ∈ ls, IsLine p l) :
    splitAfter p ls.flatten = ls := by
  simpa [splitAfter] using splitAfter_flatten_append h []

/-- Every run is made of lines and of a rest without a mark. -/
theorem exists_isLine_flatten (p : α → Bool) (as : List α) :
    ∃ (ls : List (List α)) (last : List α), (∀ l ∈ ls, IsLine p l) ∧
      (∀ x ∈ last, p x = false) ∧ as = ls.flatten ++ last := by
  induction as with
  | nil => exact ⟨[], [], by simp, by simp, rfl⟩
  | cons a as ih =>
    obtain ⟨ls, last, hls, hlast, rfl⟩ := ih
    by_cases ha : p a = true
    · refine ⟨[a] :: ls, last, ?_, hlast, rfl⟩
      rintro l (_ | ⟨_, hl⟩)
      · exact ⟨[], a, rfl, by simp, ha⟩
      · exact hls l hl
    · have ha : p a = false := by simpa using ha
      cases ls with
      | nil => exact ⟨[], a :: last, by simp, by simpa [ha] using hlast, rfl⟩
      | cons l ls =>
        obtain ⟨body, e, rfl, hbody, he⟩ := hls l List.mem_cons_self
        refine ⟨(a :: (body ++ [e])) :: ls, last, ?_, hlast, rfl⟩
        rintro k (_ | ⟨_, hk⟩)
        · exact ⟨a :: body, e, rfl, by simpa [ha] using hbody, he⟩
        · exact hls k (List.mem_cons_of_mem _ hk)

/-- A run that ends in a mark is made of lines. -/
theorem exists_flatten_of_getLast? {as : List α} (h : ∀ a ∈ as.getLast?, p a = true) :
    ∃ ls : List (List α), (∀ l ∈ ls, IsLine p l) ∧ as = ls.flatten := by
  obtain ⟨ls, last, hls, hlast, rfl⟩ := exists_isLine_flatten p as
  obtain rfl : last = [] := by
    apply Decidable.byContradiction
    intro hne
    have hmark := h (last.getLast hne) (by simp [List.getLast?_eq_some_getLast hne])
    rw [hlast _ (List.getLast_mem hne)] at hmark
    cases hmark
  exact ⟨ls, hls, List.append_nil _⟩

/-- Behind a mark, the pieces of what follows are those it has by itself. -/
theorem splitAfter_append_of_getLast? {as : List α} (h : ∀ a ∈ as.getLast?, p a = true)
    (bs : List α) : splitAfter p (as ++ bs) = splitAfter p as ++ splitAfter p bs := by
  obtain ⟨ls, hls, rfl⟩ := exists_flatten_of_getLast? h
  rw [splitAfter_flatten_append hls, splitAfter_flatten hls]

theorem ne_nil_of_mem_splitAfter {l as : List α} (h : l ∈ splitAfter p as) : l ≠ [] := by
  obtain ⟨ls, last, hls, hlast, rfl⟩ := exists_isLine_flatten p as
  rw [splitAfter_flatten_append hls] at h
  rcases List.mem_append.mp h with h | h
  · obtain ⟨body, a, rfl, -, -⟩ := hls l h
    simp
  · by_cases hne : last = []
    · simp [hne, splitAfter] at h
    · rw [splitAfter_of_forall hlast hne] at h
      rwa [List.mem_singleton.mp h]

end Pieces

end PocketShell.Text
