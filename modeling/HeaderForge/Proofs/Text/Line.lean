import HeaderForge.Text.Basic

/-! Lines. A mark splits a text into the pieces between its places, and lines are the pieces between
line feeds: a line feed between two texts puts their lines side by side, and lines that are each
followed by a line feed are read back as they were. -/

namespace HeaderForge.Text

variable {m : Char} {s t piece : Text} {q : Char → Bool}

@[elab_as_elim]
theorem mark_induction (m : Char) {motive : Text → Prop} (last : ∀ t, m ∉ t → motive t)
    (next : ∀ s t, m ∉ s → motive t → motive (s ++ m :: t)) (t : Text) : motive t := by
  induction size : t.length using Nat.strongRecOn generalizing t with
  | ind n ih =>
    by_cases h : m ∈ t
    · obtain ⟨s, r, rfl, absent⟩ := List.eq_append_cons_of_mem h
      refine next s r absent (ih r.length ?_ r rfl)
      simp only [List.length_append, List.length_cons] at size
      omega
    · exact last t h

theorem not_mem_of_mem_splitOn (h : piece ∈ t.splitOn m) : m ∉ piece := by
  induction t using mark_induction m with
  | last t absent =>
    rw [List.splitOn_eq_singleton absent, List.mem_singleton] at h
    rwa [h]
  | next s t absent ih =>
    rw [List.splitOn_append_cons_self_of_not_mem absent, List.mem_cons] at h
    rcases h with rfl | h
    · exact absent
    · exact ih h

theorem subset_of_mem_splitOn (h : piece ∈ t.splitOn m) : piece ⊆ t := by
  induction t using mark_induction m with
  | last t absent =>
    rw [List.splitOn_eq_singleton absent, List.mem_singleton] at h
    rw [h]
    exact List.Subset.refl t
  | next s t absent ih =>
    rw [List.splitOn_append_cons_self_of_not_mem absent, List.mem_cons] at h
    rcases h with rfl | h
    · exact List.subset_append_left _ _
    · exact List.subset_append_of_subset_right s (List.subset_cons_of_subset m (ih h))

theorem length_splitOn (m : Char) (t : Text) : (t.splitOn m).length = t.count m + 1 := by
  induction t using mark_induction m with
  | last t absent =>
    rw [List.splitOn_eq_singleton absent, List.count_eq_zero.2 absent, List.length_singleton]
  | next s t absent ih =>
    rw [List.splitOn_append_cons_self_of_not_mem absent, List.length_cons, ih, List.count_append,
      List.count_eq_zero.2 absent, List.count_cons_self, Nat.zero_add]

theorem flatMap_filter_splitOn (h : q m = false) (t : Text) :
    (t.splitOn m).flatMap (·.filter q) = t.filter q := by
  induction t using mark_induction m with
  | last t absent => rw [List.splitOn_eq_singleton absent, List.flatMap_singleton]
  | next s t absent ih =>
    rw [List.splitOn_append_cons_self_of_not_mem absent, List.flatMap_cons, ih, List.filter_append,
      List.filter_cons_of_neg (by simp [h])]

theorem filter_eq_intercalate (h : q m = true) (t : Text) :
    t.filter q = [m].intercalate ((t.splitOn m).map (·.filter q)) := by
  induction t using mark_induction m with
  | last t absent =>
    rw [List.splitOn_eq_singleton absent, List.map_singleton, List.intercalate_singleton]
  | next s t absent ih =>
    obtain ⟨piece, pieces, split⟩ := List.exists_cons_of_ne_nil (List.splitOn_ne_nil m t)
    rw [split] at ih
    rw [List.splitOn_append_cons_self_of_not_mem absent, split, List.map_cons, List.map_cons,
      List.intercalate_cons_cons, ← List.map_cons, ← ih, List.filter_append,
      List.filter_cons_of_pos h, List.append_assoc, List.singleton_append]

theorem lines_append_newline (s t : Text) : lines (s ++ '\n' :: t) = lines s ++ lines t :=
  List.splitOn_append_cons_self s t

theorem lines_of_newline_not_mem (h : '\n' ∉ t) : lines t = [t] := List.splitOn_eq_singleton h

theorem newline_not_mem_of_mem_lines {line : Text} (h : line ∈ lines t) : '\n' ∉ line :=
  not_mem_of_mem_splitOn h

theorem length_lines (t : Text) : (lines t).length = t.count '\n' + 1 := length_splitOn '\n' t

def ended (ls : List Text) : Text := ls.flatMap (· ++ ['\n'])

theorem ended_cons (l : Text) (ls : List Text) : ended (l :: ls) = l ++ '\n' :: ended ls := by
  simp [ended]

theorem lines_ended_append {ls : List Text} (h : ∀ l ∈ ls, '\n' ∉ l) (t : Text) :
    lines (ended ls ++ t) = ls ++ lines t := by
  induction ls with
  | nil => rfl
  | cons l ls ih =>
    have here : '\n' ∉ l := h l List.mem_cons_self
    have below : ∀ l' ∈ ls, '\n' ∉ l' := fun l' hl' => h l' (List.mem_cons_of_mem l hl')
    rw [ended_cons, List.append_assoc, List.cons_append, lines_append_newline,
      lines_of_newline_not_mem here, ih below]
    rfl

theorem lines_ended {ls : List Text} (h : ∀ l ∈ ls, '\n' ∉ l) : lines (ended ls) = ls ++ [[]] := by
  have whole := lines_ended_append h []
  rwa [List.append_nil, lines_of_newline_not_mem List.not_mem_nil] at whole

theorem count_newline_ended {ls : List Text} (h : ∀ l ∈ ls, '\n' ∉ l) :
    (ended ls).count '\n' = ls.length := by
  have size := length_lines (ended ls)
  rw [lines_ended h, List.length_append] at size
  exact Nat.succ.inj size.symm

end HeaderForge.Text
