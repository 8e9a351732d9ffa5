import HeaderForge.Proofs.Bracket.Nesting
import HeaderForge.Proofs.Bracket.Balance

/-! Openers with partners. A closer that no opener waits for is nobody's partner, so a text can have
as many closers as openers and leave an opener open, or more and leave none. Where both agree, that
is where every opener has its partner and the counts are equal, the text is balanced. -/

namespace HeaderForge

section Pairing

variable {α : Type} [DecidableEq α] {opener closer : α} {depth n : Nat} {l s t : List α}

/-- Every opener has its partner among the items. -/
def AllClosed (opener closer : α) (l : List α) : Prop :=
  ∀ s t, l = s ++ opener :: t → closingIndex opener closer 0 t ≠ none

theorem AllClosed.of_append (h : AllClosed opener closer (s ++ t)) :
    AllClosed opener closer t := by
  intro a b split
  exact h (s ++ a) b (by rw [split, List.append_assoc])

theorem allClosed_of_not_mem (h : opener ∉ l) : AllClosed opener closer l := by
  rintro s t rfl
  simp at h

theorem openAfter_append (depth : Nat) (s t : List α) : openAfter opener closer depth (s ++ t) =
    (openAfter opener closer depth s).bind (openAfter opener closer · t) := by
  rw [openAfter, List.foldlM_append]
  rfl

theorem closingIndex_eq_none_iff :
    closingIndex opener closer depth l = none ↔ openAfter opener closer depth l ≠ none := by
  induction l generalizing depth with
  | nil => simp [closingIndex, openAfter]
  | cons x l ih =>
    rw [closingIndex_cons, openAfter_cons]
    cases bracketStep opener closer depth x with
    | none => simp
    | some depth' => simpa using ih

theorem openAfter_add (h : openAfter opener closer depth l = some n) (k : Nat) :
    openAfter opener closer (depth + k) l = some (n + k) := by
  induction l generalizing depth with
  | nil =>
    cases h
    rfl
  | cons x l ih =>
    rw [openAfter_cons, Option.bind_eq_some_iff] at h ⊢
    obtain ⟨depth', step, rest⟩ := h
    refine ⟨depth' + k, ?_, ih rest⟩
    unfold bracketStep at step ⊢
    grind

theorem count_of_openAfter (ne : opener ≠ closer)
    (h : openAfter opener closer depth l = some n) :
    l.count opener + depth = l.count closer + n := by
  induction l generalizing depth with
  | nil =>
    cases h
    rfl
  | cons x l ih =>
    rw [openAfter_cons, Option.bind_eq_some_iff] at h
    obtain ⟨depth', step, rest⟩ := h
    have below := ih rest
    rw [List.count_cons, List.count_cons]
    unfold bracketStep at step
    grind

theorem allClosed_of_balanced (h : Balanced opener closer l) : AllClosed opener closer l := by
  rintro s t rfl unclosed
  obtain ⟨n, behind⟩ := Option.ne_none_iff_exists'.1 (closingIndex_eq_none_iff.1 unclosed)
  rw [Balanced, openAfter_append, Option.bind_eq_some_iff] at h
  obtain ⟨depth, -, closed⟩ := h
  rw [openAfter_cons, bracketStep, if_pos rfl, Option.bind_some] at closed
  have left := openAfter_add behind (depth + 1)
  rw [Nat.zero_add, closed] at left
  cases left

theorem AllClosed.count_le (ne : opener ≠ closer) (h : AllClosed opener closer l) :
    l.count opener ≤ l.count closer := by
  -- On the length: an opener in front is passed together with its partner, and what stands
  -- between them is balanced.
  induction size : l.length using Nat.strongRecOn generalizing l with
  | ind k ih =>
    cases l with
    | nil => simp
    | cons x t =>
      by_cases front : x = opener
      · subst front
        obtain ⟨n, partner⟩ := Option.ne_none_iff_exists'.1 (h [] t rfl)
        obtain ⟨s, r, rfl, -, balanced⟩ := (closingIndex_eq_some_iff ne).1 partner
        have inside := count_of_openAfter ne balanced
        have whole : x :: (s ++ closer :: r) = (x :: (s ++ [closer])) ++ r := by simp
        rw [whole] at h
        have behind := ih r.length (by simp [← size]; omega) h.of_append rfl
        simp only [List.count_cons, List.count_append, beq_self_eq_true, if_true, beq_iff_eq,
          ne, Ne.symm ne, if_false]
        omega
      · have behind := ih t.length (by simp [← size]) (AllClosed.of_append (s := [x]) h) rfl
        rw [List.count_cons_of_ne front]
        exact Nat.le_trans behind List.count_le_count_cons

theorem balanced_iff (ne : opener ≠ closer) : Balanced opener closer l ↔
    AllClosed opener closer l ∧ l.count opener = l.count closer := by
  constructor
  · intro balanced
    exact ⟨allClosed_of_balanced balanced, count_of_openAfter ne balanced⟩
  · rintro ⟨closed, level⟩
    cases whole : openAfter opener closer 0 l with
    | some n =>
      have counted := count_of_openAfter ne whole
      rw [Balanced, whole, Option.some.injEq]
      omega
    | none =>
      -- behind the first closer without an opener the closers must still suffice
      have stray : closingIndex opener closer 0 l ≠ none := by
        rw [ne_eq, closingIndex_eq_none_iff, not_not, whole]
      obtain ⟨n, first⟩ := Option.ne_none_iff_exists'.1 stray
      obtain ⟨s, t, rfl, -, balanced⟩ := (closingIndex_eq_some_iff ne).1 first
      have front := count_of_openAfter ne balanced
      have behind := AllClosed.count_le ne (AllClosed.of_append (s := [closer]) closed.of_append)
      rw [List.count_append, List.count_append, List.count_cons_self,
        List.count_cons_of_ne (Ne.symm ne)] at level
      omega

end Pairing

def bracketPairs : List (Char × Char) := [('{', '}'), ('[', ']'), ('(', ')'), ('<', '>')]

/-- No bracket is open behind a text. -/
def NoneOpen (t : Text) : Prop := ∀ b ∈ bracketPairs, AllClosed b.1 b.2 t

theorem Nesting.isLevel_iff {t : Text} :
    IsLevel t ↔ ∀ b ∈ bracketPairs, t.count b.1 = t.count b.2 := by
  simp [IsLevel, bracketPairs]

theorem balanced_iff_noneOpen {t : Text} :
    (∀ b ∈ bracketPairs, Balanced b.1 b.2 t) ↔ NoneOpen t ∧ Nesting.IsLevel t := by
  have apart : ∀ b ∈ bracketPairs, b.1 ≠ b.2 := by decide
  rw [NoneOpen, Nesting.isLevel_iff, ← forall₂_and]
  exact forall₂_congr fun b hb => balanced_iff (apart b hb)

end HeaderForge
