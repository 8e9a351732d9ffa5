import Mathlib.Data.List.TakeWhile

/-! Cutting a list where a test first fails: the two parts are known from any split whose first part
passes the test and whose second part does not begin with an item that does. -/

namespace HeaderForge

variable {α : Type} {p : α → Bool} {s t : List α}

/-- No item at the front of `t` passes the test, so that a run of passing items stops there. -/
def StopsAt (p : α → Bool) (t : List α) : Prop := ∀ a ∈ t.head?, p a = false

theorem stopsAt_nil : StopsAt p [] := by simp [StopsAt]

theorem stopsAt_cons {a : α} : StopsAt p (a :: t) ↔ p a = false := by simp [StopsAt]

theorem stopsAt_dropWhile (p : α → Bool) (l : List α) : StopsAt p (l.dropWhile p) := by
  intro a ha
  have := List.head?_dropWhile_not p l
  rwa [Option.mem_def.1 ha] at this

theorem takeWhile_append_stop (hs : ∀ a ∈ s, p a = true) (ht : StopsAt p t) :
    (s ++ t).takeWhile p = s := by
  rw [List.takeWhile_append_of_pos hs]
  cases t with
  | nil => rw [List.takeWhile_nil, List.append_nil]
  | cons a t =>
    rw [List.takeWhile_cons, if_neg (by simp [stopsAt_cons.1 ht]), List.append_nil]

theorem dropWhile_append_stop (hs : ∀ a ∈ s, p a = true) (ht : StopsAt p t) :
    (s ++ t).dropWhile p = t := by
  rw [List.dropWhile_append_of_pos hs]
  cases t with
  | nil => rfl
  | cons a t => rw [List.dropWhile_cons, if_neg (by simp [stopsAt_cons.1 ht])]

theorem passes_of_mem_takeWhile {m : α} (h : m ∈ (s ++ t).takeWhile p) (hs : m ∉ s) :
    ∀ a ∈ s, p a = true := by
  induction s with
  | nil => simp
  | cons x s ih =>
    rw [List.mem_cons, not_or] at hs
    rw [List.cons_append, List.takeWhile_cons] at h
    split at h
    · rename_i hx
      rw [List.mem_cons] at h
      intro a ha
      rcases List.mem_cons.1 ha with rfl | ha
      · exact hx
      · exact ih (h.resolve_left hs.1) hs.2 a ha
    · cases h

theorem prefix_of_prefix_append {r : List α} (h : r <+: s ++ t) (stop : ∀ a ∈ t.head?, a ∉ r) :
    r <+: s := by
  induction s generalizing r with
  | nil =>
    cases r with
    | nil => exact List.nil_prefix
    | cons x r =>
      obtain ⟨w, split⟩ := h
      rw [List.nil_append] at split
      exact absurd List.mem_cons_self (stop x (by rw [← split]; rfl))
  | cons y s ih =>
    cases r with
    | nil => exact List.nil_prefix
    | cons x r =>
      rw [List.cons_append, List.cons_prefix_cons] at h
      obtain ⟨rfl, h⟩ := h
      rw [List.cons_prefix_cons]
      exact ⟨rfl, ih h fun a ha mem => stop a ha (List.mem_cons_of_mem x mem)⟩

section Mark

variable [DecidableEq α] {m a : α}

theorem stopsAt_mark (t : List α) : StopsAt (· ≠ m) (m :: t) := by simp [StopsAt]

theorem takeWhile_append_mark (h : m ∉ s) (t : List α) :
    (s ++ m :: t).takeWhile (· ≠ m) = s := by
  apply takeWhile_append_stop _ (stopsAt_mark t)
  intro a ha
  simpa using ne_of_mem_of_not_mem ha h

theorem dropWhile_append_mark (h : m ∉ s) (t : List α) :
    (s ++ m :: t).dropWhile (· ≠ m) = m :: t := by
  apply dropWhile_append_stop _ (stopsAt_mark t)
  intro a ha
  simpa using ne_of_mem_of_not_mem ha h

theorem dropWhile_ne_eq_nil (h : m ∉ s) : s.dropWhile (· ≠ m) = [] := by
  rw [List.dropWhile_eq_nil_iff]
  intro a ha
  simpa using ne_of_mem_of_not_mem ha h

theorem takeWhile_ne_of_prefix (mark : m ∈ s) (front : s <+: t) :
    s.takeWhile (· ≠ m) = t.takeWhile (· ≠ m) := by
  obtain ⟨a, b, rfl, absent⟩ := List.eq_append_cons_of_mem mark
  obtain ⟨r, rfl⟩ := front
  rw [takeWhile_append_mark absent, List.append_assoc, List.cons_append,
    takeWhile_append_mark absent]

theorem not_mem_takeWhile_ne (l : List α) : m ∉ l.takeWhile (· ≠ m) := by
  intro h
  simpa using List.mem_takeWhile_imp h

theorem eq_of_dropWhile_ne {l : List α} (h : l.dropWhile (· ≠ m) = a :: t) :
    l = l.takeWhile (· ≠ m) ++ m :: t := by
  have stop := stopsAt_dropWhile (· ≠ m) l
  rw [h, stopsAt_cons] at stop
  have parts := List.takeWhile_append_dropWhile (l := l) (p := (· ≠ m))
  rw [h, show a = m by simpa using stop] at parts
  exact parts.symm

theorem cut_at_mark {s' t' : List α} (h : m ∉ s) (h' : m ∉ s')
    (same : s ++ m :: t = s' ++ m :: t') : s = s' ∧ t = t' := by
  have front : s = s' := by
    rw [← takeWhile_append_mark h t, same, takeWhile_append_mark h' t']
  rw [front] at same
  exact ⟨front, (List.cons.inj (List.append_cancel_left same)).2⟩

theorem cut_at_mark_iff {l name value : List α} :
    m ∉ name ∧ (l = name ∧ value = [] ∨ l = name ++ m :: value) ↔
      name = l.takeWhile (· ≠ m) ∧ value = (l.dropWhile (· ≠ m)).drop 1 := by
  constructor
  · rintro ⟨absent, ⟨rfl, rfl⟩ | rfl⟩
    · have passes : ∀ x ∈ l, decide (x ≠ m) = true := by
        intro x hx
        simpa using ne_of_mem_of_not_mem hx absent
      rw [List.takeWhile_eq_self_iff.2 passes, List.dropWhile_eq_nil_iff.2 passes]
      exact ⟨rfl, rfl⟩
    · rw [takeWhile_append_mark absent, dropWhile_append_mark absent]
      exact ⟨rfl, rfl⟩
  · rintro ⟨rfl, rfl⟩
    refine ⟨not_mem_takeWhile_ne l, ?_⟩
    cases left : l.dropWhile (· ≠ m) with
    | nil =>
      refine Or.inl ⟨?_, rfl⟩
      rw [List.dropWhile_eq_nil_iff] at left
      exact (List.takeWhile_eq_self_iff.2 left).symm
    | cons x r => exact Or.inr (eq_of_dropWhile_ne left)

end Mark

end HeaderForge
