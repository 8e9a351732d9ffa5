import HeaderForge.Bracket
import HeaderForge.Proofs.Text.Blank

/-! Separating commas. The part before the first one is the longest front without one, so reading
it again, with or without what stood behind it, gives the same part. -/

namespace HeaderForge.Nesting

open Text

variable {n : Nesting} {s t w : Text} {c : Char}

theorem after_cons (n : Nesting) (c : Char) (t : Text) : n.after (c :: t) = (n.step c).after t :=
  rfl

theorem upToComma_nil (n : Nesting) : n.upToComma [] = [] := rfl

theorem upToComma_cons (h : ¬ (c = ',' ∧ n = top)) (t : Text) :
    n.upToComma (c :: t) = c :: (n.step c).upToComma t := by
  rw [upToComma, if_neg h]

theorem upToComma_top_comma (t : Text) : top.upToComma (',' :: t) = [] := by
  rw [upToComma, if_pos ⟨rfl, rfl⟩]

theorem upToComma_cons_eq_self_iff : n.upToComma (c :: t) = c :: t ↔
    ¬ (c = ',' ∧ n = top) ∧ (n.step c).upToComma t = t := by
  by_cases h : c = ',' ∧ n = top
  · simp [upToComma, h]
  · simp [upToComma, h]

theorem upToComma_eq_self_iff :
    n.upToComma t = t ↔ ∀ s r, t = s ++ ',' :: r → n.after s ≠ top := by
  induction t generalizing n with
  | nil => simp [upToComma_nil]
  | cons c t ih =>
    rw [upToComma_cons_eq_self_iff, ih]
    constructor
    · rintro ⟨passes, inner⟩ s r split
      cases s with
      | nil =>
        cases split
        exact fun same => passes ⟨rfl, same⟩
      | cons c' s =>
        cases split
        exact inner s r rfl
    · intro nested
      refine ⟨?_, fun s r split => nested (c :: s) r (by rw [split]; rfl)⟩
      rintro ⟨rfl, same⟩
      exact nested [] t rfl same

theorem upToComma_append (h : n.upToComma s = s) (t : Text) :
    n.upToComma (s ++ t) = s ++ (n.after s).upToComma t := by
  induction s generalizing n with
  | nil => rfl
  | cons c s ih =>
    obtain ⟨passes, rest⟩ := upToComma_cons_eq_self_iff.1 h
    rw [List.cons_append, upToComma_cons passes, ih rest, List.cons_append, after_cons]

theorem upToComma_of_append (h : n.upToComma (s ++ t) = s ++ t) : n.upToComma s = s := by
  induction s generalizing n with
  | nil => rfl
  | cons c s ih =>
    obtain ⟨passes, rest⟩ := upToComma_cons_eq_self_iff.1 h
    exact upToComma_cons_eq_self_iff.2 ⟨passes, ih rest⟩

theorem upToComma_spec (n : Nesting) (t : Text) : ∃ r, t = n.upToComma t ++ r ∧
    n.upToComma (n.upToComma t) = n.upToComma t ∧
    (r = [] ∨ n.after (n.upToComma t) = top ∧ ∃ r', r = ',' :: r') := by
  induction t generalizing n with
  | nil => exact ⟨[], rfl, rfl, Or.inl rfl⟩
  | cons c t ih =>
    by_cases h : c = ',' ∧ n = top
    · obtain ⟨rfl, rfl⟩ := h
      rw [upToComma_top_comma]
      exact ⟨',' :: t, rfl, rfl, Or.inr ⟨rfl, t, rfl⟩⟩
    · obtain ⟨r, split, again, left⟩ := ih (n.step c)
      refine ⟨r, ?_, ?_, ?_⟩
      · rw [upToComma_cons h, List.cons_append, ← split]
      · rw [upToComma_cons h, upToComma_cons h, again]
      · rwa [upToComma_cons h, after_cons]

theorem step_of_isBlank (h : isBlank c = true) (n : Nesting) : n.step c = n := by
  unfold step
  split
  all_goals first | rfl | exact absurd h (by decide)

theorem after_append_blank (h : AllBlank w) (s : Text) : n.after (s ++ w) = n.after s := by
  rw [after, List.foldl_append]
  change (n.after s).after w = n.after s
  generalize n.after s = m
  induction w generalizing m with
  | nil => rfl
  | cons c w ih =>
    obtain ⟨first, rest⟩ := allBlank_cons.1 h
    rw [after_cons, step_of_isBlank first, ih rest]

theorem upToComma_blank_append (h : AllBlank w) (t : Text) :
    n.upToComma (w ++ t) = w ++ n.upToComma t := by
  induction w with
  | nil => rfl
  | cons c w ih =>
    obtain ⟨first, rest⟩ := allBlank_cons.1 h
    have passes : ¬ (c = ',' ∧ n = top) := by
      rintro ⟨rfl, -⟩
      cases first
    rw [List.cons_append, upToComma_cons passes, step_of_isBlank first, ih rest, List.cons_append]

def excess (t : Text) : Nesting where
  curly := t.count '{' - t.count '}'
  square := t.count '[' - t.count ']'
  round := t.count '(' - t.count ')'
  angle := t.count '<' - t.count '>'

theorem after_append (n : Nesting) (s t : Text) : n.after (s ++ t) = (n.after s).after t :=
  List.foldl_append

theorem excess_append_singleton (t : Text) (c : Char) :
    excess (t ++ [c]) = (excess t).step c := by
  unfold step
  split
  all_goals simp only [excess, List.count_append, List.count_singleton]
  all_goals grind

theorem after_top (t : Text) : top.after t = excess t := by
  -- From the end, where the last character is stepped over.
  induction t using List.reverseRecOn with
  | nil => rfl
  | append_singleton t c ih =>
    rw [after_append, ih, excess_append_singleton]
    rfl

/-- As many closers as openers of each kind. -/
def IsLevel (t : Text) : Prop :=
  t.count '{' = t.count '}' ∧ t.count '[' = t.count ']' ∧ t.count '(' = t.count ')' ∧
    t.count '<' = t.count '>'

instance (t : Text) : Decidable (IsLevel t) := inferInstanceAs (Decidable (_ ∧ _))

theorem after_top_eq_top_iff : top.after t = top ↔ IsLevel t := by
  rw [after_top]
  simp only [excess, top, Nesting.mk.injEq, IsLevel]
  omega

end HeaderForge.Nesting
